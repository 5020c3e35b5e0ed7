import FoloXray.Foundation.Reads
import FoloXray.Profile.Schema
import Mathlib.Data.Int.DivMod

/-! # The client side of the REALITY handshake

`UClient`: the client gives up on a missing fingerprint, on unusable keys and on a failed handshake,
returns the connection of a verified peer, and answers an unverified one by crawling its site for a
while.  How long it waits, how much it pads and how often it asks is drawn between the entries of
`SpiderY`, which it indexes without a check.  Whether there is a shared key depends on the public key
alone.  What the client does not control is an input: the handshake, the random draws and the answers of
the site.
-/

namespace FoloXray.RealityTransport

open Foundation Profile

/-- A fingerprint, under the name it has in the TLS library. -/
abbrev ClientHelloID := String

def modernFingerprints : List (Bytes × ClientHelloID) :=
  [(goString "hellofirefox_99", "HelloFirefox_99"),
    (goString "hellofirefox_102", "HelloFirefox_102"),
    (goString "hellofirefox_105", "HelloFirefox_105"),
    (goString "hellochrome_83", "HelloChrome_83"),
    (goString "hellochrome_87", "HelloChrome_87"),
    (goString "hellochrome_96", "HelloChrome_96"),
    (goString "hellochrome_100", "HelloChrome_100"),
    (goString "hellochrome_102", "HelloChrome_102"),
    (goString "hellochrome_106_shuffle", "HelloChrome_106_Shuffle"),
    (goString "helloios_13", "HelloIOS_13"),
    (goString "helloios_14", "HelloIOS_14"),
    (goString "helloedge_85", "HelloEdge_85"),
    (goString "helloedge_106", "HelloEdge_106"),
    (goString "hellosafari_16_0", "HelloSafari_16_0"),
    (goString "hello360_11_0", "Hello360_11_0"),
    (goString "helloqq_11_1", "HelloQQ_11_1")]

/-- The presets after package initialisation, which picks one of the modern fingerprints as
`random` and derives `randomized` from a fresh seed. -/
def presetFingerprints (random : ClientHelloID) : List (Bytes × ClientHelloID) :=
  [(goString "chrome", "HelloChrome_Auto"),
    (goString "firefox", "HelloFirefox_Auto"),
    (goString "safari", "HelloSafari_Auto"),
    (goString "ios", "HelloIOS_Auto"),
    (goString "android", "HelloAndroid_11_OkHttp"),
    (goString "edge", "HelloEdge_Auto"),
    (goString "360", "Hello360_Auto"),
    (goString "qq", "HelloQQ_Auto"),
    (goString "random", random),
    (goString "randomized", "randomized")]

def otherFingerprints : List (Bytes × ClientHelloID) :=
  [(goString "hellogolang", "HelloGolang"),
    (goString "hellorandomized", "HelloRandomized"),
    (goString "hellorandomizedalpn", "HelloRandomizedALPN"),
    (goString "hellorandomizednoalpn", "HelloRandomizedNoALPN"),
    (goString "hellofirefox_auto", "HelloFirefox_Auto"),
    (goString "hellofirefox_55", "HelloFirefox_55"),
    (goString "hellofirefox_56", "HelloFirefox_56"),
    (goString "hellofirefox_63", "HelloFirefox_63"),
    (goString "hellofirefox_65", "HelloFirefox_65"),
    (goString "hellochrome_auto", "HelloChrome_Auto"),
    (goString "hellochrome_58", "HelloChrome_58"),
    (goString "hellochrome_62", "HelloChrome_62"),
    (goString "hellochrome_70", "HelloChrome_70"),
    (goString "hellochrome_72", "HelloChrome_72"),
    (goString "helloios_auto", "HelloIOS_Auto"),
    (goString "helloios_11_1", "HelloIOS_11_1"),
    (goString "helloios_12_1", "HelloIOS_12_1"),
    (goString "helloandroid_11_okhttp", "HelloAndroid_11_OkHttp"),
    (goString "helloedge_auto", "HelloEdge_Auto"),
    (goString "hellosafari_auto", "HelloSafari_Auto"),
    (goString "hello360_auto", "Hello360_Auto"),
    (goString "hello360_7_5", "Hello360_7_5"),
    (goString "helloqq_auto", "HelloQQ_Auto")]

def getFingerprint (random : ClientHelloID) (name : Bytes) : Option ClientHelloID :=
  if name = [] then none
  else
    (presetFingerprints random).lookup name <|> modernFingerprints.lookup name <|>
      otherFingerprints.lookup name

inductive Handshake where
  | failed
  | verified
  | unverified
  deriving DecidableEq, Repr

inductive Attempt where
  | doFails
  | readFails
  | answered
  deriving DecidableEq, Repr

/-- What one run of `get` meets: whether its request can be made at all, what it draws, and how its
attempts end. -/
structure Worker where
  request : Bool
  draws : ℕ → ℕ
  attempts : ℕ → Attempt

structure Surroundings where
  random : ClientHelloID
  derivesKey : Bool
  handshake : Handshake
  returnDraw : ℕ
  concurrencyDraw : ℕ
  first : Worker
  workers : ℕ → Worker

def int64 (x : ℤ) : ℤ := x.bmod (2 ^ 64)

/-- A number between the bounds; the random source refuses an empty range. -/
def randBetween (draw : ℕ) (left right : ℤ) : Option ℤ :=
  if left = right then some left
  else if int64 (right - left) ≤ 0 then none
  else some (int64 (left + draw % int64 (right - left)))

variable (spiderY : List ℤ)

def between (draw i k : ℕ) : Reads ℤ := do
  let left ← Reads.index spiderY i
  let right ← Reads.index spiderY k
  Reads.ofOption (randBetween draw left right)

/-- The loop of `get`, with `n` rounds to go after `j` of them. -/
def getLoop (first : Bool) (w : Worker) : (n j : ℕ) → Reads Unit
  | 0, _ => pure ()
  | n + 1, j => do
    let padding ← between spiderY (w.draws (2 * j + 1)) 0 1
    Reads.ofOption (if 0 ≤ padding then some () else none)
    match w.attempts j with
    | .doFails | .readFails => pure ()
    | .answered =>
      if first then getLoop first w n (j + 1)
      else do
        let _ ← between spiderY (w.draws (2 * j + 2)) 6 7
        getLoop first w n (j + 1)

def get (first : Bool) (w : Worker) : Reads Unit :=
  if !w.request then pure ()
  else if first then getLoop spiderY first w 1 0
  else do
    let times ← between spiderY (w.draws 0) 4 5
    getLoop spiderY first w times.toNat 0

/-- The goroutine that crawls the site, up to the number of further ones it starts. -/
def crawl (env : Surroundings) : Reads ℕ := do
  get spiderY true env.first
  let concurrency ← between spiderY env.concurrencyDraw 2 3
  pure concurrency.toNat

def crawlers (env : Surroundings) : List (Reads Unit) :=
  match (crawl spiderY env).result with
  | some concurrency => (List.range concurrency).map fun i => get spiderY false (env.workers i)
  | none => []

def fieldPrime : ℕ := 2 ^ 255 - 19

/-- The points whose order divides 8.  A private key is a multiple of 8, and not of the order of any other
point, so these are the public keys with which `ECDH` comes to zero. -/
def lowOrderPoints : List ℕ :=
  [0, 1, fieldPrime - 1,
    325606250916557431795983626356110631294008115727848805560023387167927233504,
    39382357235489614581723060781553021112529911719440698176882885853963445705823]

/-- The coordinate that a public key stands for: the bytes, lowest first, without the topmost bit. -/
def coordinate (publicKey : Bytes) : ℕ :=
  publicKey.foldr (fun b n => b.toNat + 256 * n) 0 % 2 ^ 255 % fieldPrime

/-- `EcdheKey.ECDH` returns a key; it refuses one that is zero. -/
def sharesKey (publicKey : Bytes) : Bool := coordinate publicKey ∉ lowOrderPoints

inductive ClientError where
  | new (text : String)
  | deriveKey
  | handshake
  deriving DecidableEq, Repr

/-- What a call does to `SpiderY`: the call itself, whose result is an error or the connection, and
the goroutines it leaves behind. -/
structure Run where
  main : Reads (Except ClientError Unit)
  crawl : Option (Reads ℕ)
  crawlers : List (Reads Unit)

def Run.returned (r : Except ClientError Unit) : Run := ⟨pure r, none, []⟩

/-- An unverified peer: start the crawler, wait, and give up the connection. -/
def answerUnverified (config : RealityConfig) (env : Surroundings) : Run where
  main := do
    let _ ← between config.spiderY env.returnDraw 8 9
    pure (.error (.new "REALITY: processed invalid connection"))
  crawl := some (crawl config.spiderY env)
  crawlers := crawlers config.spiderY env

def uClient (config : RealityConfig) (env : Surroundings) : Run :=
  match getFingerprint env.random config.fingerprint with
  | none => .returned (.error (.new "REALITY: failed to get fingerprint"))
  | some _ =>
    if config.publicKey.length ≠ 32 then .returned (.error (.new "REALITY: publicKey == nil"))
    else if !sharesKey config.publicKey then .returned (.error (.new "REALITY: SharedKey == nil"))
    else if !env.derivesKey then .returned (.error .deriveKey)
    else
      match env.handshake with
      | .failed => .returned (.error .handshake)
      | .verified => .returned (.ok ())
      | .unverified => answerUnverified config env

/-- The positions of `SpiderY` that the call and its goroutines index. -/
def Run.indexes (r : Run) : List ℕ :=
  r.main.positions ++ (r.crawl.elim [] (·.positions)) ++ r.crawlers.flatMap (·.positions)

end FoloXray.RealityTransport
