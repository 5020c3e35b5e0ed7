import FoloXray.Foundation.Manifest
import Mathlib.Data.List.Sort

/-! # The digest of an imported tree

`verify_upstream_lock.rb`: the files below a path are listed with their permissions, their names and the
digests of their contents, and the digest of the list is compared with the lock.  The listing leaves out
what `File.directory?` answers to, which follows links, and does not say which entries are links.
-/

namespace FoloXray.Release
open Foundation Manifest

/-- What a name in a tree stands for.  A link may resolve to a directory or not. -/
inductive Node where
  | directory (mode : ℕ)
  | file (mode : ℕ) (content : Bytes)
  | link (mode : ℕ) (target : Bytes) (toDirectory : Bool)
  deriving DecidableEq, Repr

structure Entry where
  relative : Bytes
  node : Node
  deriving DecidableEq, Repr

/-- The path of an entry below the path of its tree. -/
def Entry.fullPath (e : Entry) (path : Bytes) : Bytes := path ++ slash :: e.relative

/-- The path ends in the name of the directory itself or of its parent. -/
def isDotEntry (path : Bytes) : Bool :=
  (goString "/.").isSuffixOf path || (goString "/..").isSuffixOf path

/-- `File.directory?`, which follows links. -/
def Node.isDirectory : Node → Bool
  | .directory _ => true
  | .file _ _ => false
  | .link _ _ toDirectory => toDirectory

def pathLE : Bytes → Bytes → Bool
  | [], _ => true
  | _ :: _, [] => false
  | a :: s, b :: t => a.toNat < b.toNat || (a == b && pathLE s t)

/-- What `Dir.glob` lists below a path, in its order: every entry once, and some directories again under
their dot names. -/
structure SourceTree where
  path : Bytes
  listing : List Entry
  nodup : (listing.map Entry.relative).Nodup
  dots : ∀ e ∈ listing, isDotEntry (e.fullPath path) = true → e.node.isDirectory = true

namespace SourceTree

def listed (t : SourceTree) : List Entry :=
  (t.listing.filter fun e => !isDotEntry (e.fullPath t.path)).filter fun e => !e.node.isDirectory

def entries (t : SourceTree) : List Entry :=
  t.listed.insertionSort fun a b => pathLE (a.fullPath t.path) (b.fullPath t.path) = true

end SourceTree

def Node.permissions : Node → ℕ
  | .directory mode => mode % 0o10000
  | .file mode _ => mode % 0o10000
  | .link mode _ _ => mode % 0o10000

/-- What is hashed for an entry; a directory never gets as far. -/
def Node.hashed : Node → Bytes
  | .directory _ => []
  | .file _ content => content
  | .link _ target _ => target

variable (H : Hexdigest)

def entryLine (t : SourceTree) (e : Entry) : Bytes :=
  line (digits 8 e.node.permissions) ((e.fullPath t.path).drop (t.path.length + 1))
    (H.digest e.node.hashed)

def treeText (t : SourceTree) : Bytes := joinLines (t.entries.map (entryLine H t))

def treeDigest (t : SourceTree) : Bytes := H.digest (treeText H t)

def fileCount (t : SourceTree) : ℕ := t.listed.length

structure Component where
  id : Bytes
  fileCount : ℕ
  patchedTreeDigest : Bytes
  licenseDigest : Bytes

inductive LockError where
  | missingPath (id : Bytes)
  | fileCount (id : Bytes) (actual expected : ℕ)
  | treeDigest (id actual expected : Bytes)
  | missingLicense (id : Bytes)
  | licenseHash (id : Bytes)
  deriving DecidableEq, Repr

def licenseErrors (c : Component) : (license : Option Bytes) → List LockError
  | none => [.missingLicense c.id]
  | some text => if H.digest text = c.licenseDigest then [] else [.licenseHash c.id]

/-- The errors of a component, given its tree and its licence file if they exist. -/
def componentErrors (c : Component) (tree : Option SourceTree) (license : Option Bytes) :
    List LockError :=
  match tree with
  | none => [.missingPath c.id]
  | some t =>
    (if fileCount t = c.fileCount then [] else [.fileCount c.id (fileCount t) c.fileCount]) ++
      ((if treeDigest H t = c.patchedTreeDigest then []
        else [.treeDigest c.id (treeDigest H t) c.patchedTreeDigest]) ++ licenseErrors H c license)

inductive Kind where
  | regular
  | symbolicLink
  deriving DecidableEq, Repr

/-- An entry that is not a directory itself: its name, its kind, its permissions and its content or
target. -/
structure Item where
  relative : Bytes
  kind : Kind
  permissions : ℕ
  text : Bytes
  deriving DecidableEq, Repr

def Entry.item : Entry → Option Item
  | ⟨_, .directory _⟩ => none
  | ⟨relative, .file mode content⟩ => some ⟨relative, .regular, mode % 0o10000, content⟩
  | ⟨relative, .link mode target _⟩ => some ⟨relative, .symbolicLink, mode % 0o10000, target⟩

namespace SourceTree

variable (t t' : SourceTree)

def items : List Item := t.listing.filterMap Entry.item

/-- The items that the digest is made from, in its order. -/
def seenItems : List Item := t.entries.filterMap Entry.item

def directoryLinks : List Item := (t.listing.filter (·.node.isDirectory)).filterMap Entry.item

/-- The trees have the same files and links, with the same kinds, permissions and contents. -/
def SameItems : Prop := ∀ i, i ∈ t.items ↔ i ∈ t'.items

/-- A name that both digests are made from is a link in both trees or in neither. -/
def SameKinds : Prop :=
  ∀ i ∈ t.seenItems, ∀ i' ∈ t'.seenItems, i.relative = i'.relative → i.kind = i'.kind

def SameDirectoryLinks : Prop := ∀ i, i ∈ t.directoryLinks ↔ i ∈ t'.directoryLinks

/-- No line break in a name has a tab or the end of the name behind it with nothing but digits between. -/
def NoHiddenLines : Prop := ∀ i ∈ t.seenItems, hidesLine (i.relative ++ [tab]) = false

instance : Decidable (t.SameKinds t') := inferInstanceAs (Decidable (∀ i ∈ t.seenItems,
  ∀ i' ∈ t'.seenItems, i.relative = i'.relative → i.kind = i'.kind))

instance : Decidable t.NoHiddenLines :=
  inferInstanceAs (Decidable (∀ i ∈ t.seenItems, hidesLine (i.relative ++ [tab]) = false))

end SourceTree

def hashedMessages (t : SourceTree) : List Bytes := treeText H t :: t.seenItems.map Item.text

section Items

variable {t t' : SourceTree} {e : Entry} {i i' : Item}

theorem Entry.item_relative (h : e.item = some i) : i.relative = e.relative := by
  unfold Entry.item at h
  split at h
  · cases h
  · cases h
    rfl
  · cases h
    rfl

theorem SourceTree.mem_entries : e ∈ t.entries ↔ e ∈ t.listing ∧ e.node.isDirectory = false := by
  rw [entries, (List.perm_insertionSort _ _).mem_iff, listed, List.mem_filter, List.mem_filter]
  simp only [Bool.not_eq_true']
  constructor
  · rintro ⟨⟨hlisting, -⟩, hfile⟩
    exact ⟨hlisting, hfile⟩
  · rintro ⟨hlisting, hfile⟩
    refine ⟨⟨hlisting, ?_⟩, hfile⟩
    by_contra hdot
    rw [t.dots e hlisting (by simpa using hdot)] at hfile
    cases hfile

theorem SourceTree.mem_seenItems :
    i ∈ t.seenItems ↔ ∃ e ∈ t.listing, e.node.isDirectory = false ∧ e.item = some i := by
  simp only [seenItems, List.mem_filterMap, mem_entries, and_assoc]

theorem SourceTree.mem_directoryLinks :
    i ∈ t.directoryLinks ↔ ∃ e ∈ t.listing, e.node.isDirectory = true ∧ e.item = some i := by
  simp only [directoryLinks, List.mem_filterMap, List.mem_filter, and_assoc]

/-- An item is seen by the digest or it is a link to a directory. -/
theorem SourceTree.mem_items : i ∈ t.items ↔ i ∈ t.seenItems ∨ i ∈ t.directoryLinks := by
  rw [items, List.mem_filterMap, mem_seenItems, mem_directoryLinks]
  constructor
  · rintro ⟨e, hlisting, hitem⟩
    cases hdirectory : e.node.isDirectory with
    | false => exact .inl ⟨e, hlisting, hdirectory, hitem⟩
    | true => exact .inr ⟨e, hlisting, hdirectory, hitem⟩
  · rintro (⟨e, hlisting, -, hitem⟩ | ⟨e, hlisting, -, hitem⟩)
    · exact ⟨e, hlisting, hitem⟩
    · exact ⟨e, hlisting, hitem⟩

theorem SourceTree.entry_unique {e e' : Entry} (h : e ∈ t.listing) (h' : e' ∈ t.listing)
    (hname : e.relative = e'.relative) : e = e' :=
  List.inj_on_of_nodup_map t.nodup h h' hname

theorem SourceTree.item_unique (h : i ∈ t.items) (h' : i' ∈ t.items)
    (hname : i.relative = i'.relative) : i = i' := by
  obtain ⟨e, hlisting, hitem⟩ := List.mem_filterMap.mp h
  obtain ⟨e', hlisting', hitem'⟩ := List.mem_filterMap.mp h'
  rw [Entry.item_relative hitem, Entry.item_relative hitem'] at hname
  rw [t.entry_unique hlisting hlisting' hname, hitem'] at hitem
  exact (Option.some.inj hitem).symm

/-- No name is both seen by the digest and a link to a directory. -/
theorem SourceTree.relative_ne (h : i ∈ t.seenItems) (h' : i' ∈ t.directoryLinks) :
    i.relative ≠ i'.relative := by
  intro hname
  obtain ⟨e, hlisting, hfile, hitem⟩ := mem_seenItems.mp h
  obtain ⟨e', hlisting', hdirectory, hitem'⟩ := mem_directoryLinks.mp h'
  rw [Entry.item_relative hitem, Entry.item_relative hitem'] at hname
  rw [t.entry_unique hlisting hlisting' hname, hdirectory] at hfile
  cases hfile

end Items

def itemLine (i : Item) : Bytes := line (digits 8 i.permissions) i.relative (H.digest i.text)

section Digest

variable {H} {t t' : SourceTree} {i i' : Item}

theorem entryLine_eq {e : Entry} (h : e.item = some i) : entryLine H t e = itemLine H i := by
  have hdrop : (e.fullPath t.path).drop (t.path.length + 1) = e.relative := by
    rw [Entry.fullPath, ← List.drop_drop, List.drop_left]
    rfl
  rw [entryLine, hdrop, itemLine]
  unfold Entry.item at h
  split at h
  · cases h
  · cases h
    rfl
  · cases h
    rfl

theorem map_eq_map_filterMap {α β γ : Type} {f : α → Option β} {g : α → γ} {k : β → γ} {l : List α}
    (h : ∀ a ∈ l, ∃ b, f a = some b ∧ g a = k b) : l.map g = (l.filterMap f).map k := by
  induction l with
  | nil => rfl
  | cons a l ih =>
    obtain ⟨⟨b, hb, hg⟩, h⟩ := List.forall_mem_cons.mp h
    rw [List.map_cons, List.filterMap_cons_some hb, List.map_cons, hg, ih h]

theorem exists_item {e : Entry} (h : e.node.isDirectory = false) : ∃ i, e.item = some i := by
  obtain ⟨relative, node⟩ := e
  cases node with
  | directory mode => cases h
  | file mode content => exact ⟨_, rfl⟩
  | link mode target toDirectory => exact ⟨_, rfl⟩

/-- The text is made of the lines of the items it sees. -/
theorem treeText_eq (t : SourceTree) : treeText H t = joinLines (t.seenItems.map (itemLine H)) := by
  rw [treeText, SourceTree.seenItems]
  congr 1
  apply map_eq_map_filterMap
  intro e he
  obtain ⟨i, hi⟩ := exists_item (SourceTree.mem_entries.mp he).2
  exact ⟨i, hi, entryLine_eq hi⟩

theorem length_seenItems (t : SourceTree) : t.seenItems.length = fileCount t := by
  have hmap : t.entries.map (fun _ => ()) = t.seenItems.map (fun _ => ()) := by
    apply map_eq_map_filterMap
    intro e he
    obtain ⟨i, hi⟩ := exists_item (SourceTree.mem_entries.mp he).2
    exact ⟨i, hi, rfl⟩
  have hlength := congrArg List.length hmap
  rw [List.length_map, List.length_map] at hlength
  rw [← hlength, SourceTree.entries, (List.perm_insertionSort _ _).length_eq, fileCount]

theorem tab_not_mem_digits (n : ℕ) : tab ∉ digits 8 n := by
  intro h
  exact absurd (digits_bounds (by decide) (by decide) h) (by decide)

theorem isDigit_digits {n : ℕ} {c : UInt8} (h : c ∈ digits 8 n) : isDigit c = true :=
  decide_eq_true (digits_bounds (by decide) (by decide) h)

theorem itemLine_inj (h : itemLine H i = itemLine H i') :
    i.permissions = i'.permissions ∧ i.relative = i'.relative ∧ H.digest i.text = H.digest i'.text := by
  have htab (message : Bytes) : tab ∉ H.digest message := fun hmem => H.hex message tab hmem rfl
  obtain ⟨hdigits, hname, hdigest⟩ :=
    line_inj (tab_not_mem_digits _) (tab_not_mem_digits _) (htab _) (htab _) h
  exact ⟨digits_inj (by decide) (by decide) hdigits, hname, hdigest⟩

theorem closed_itemLine (h : hidesLine (i.relative ++ [tab]) = false) : Closed (itemLine H i) :=
  closed_line (fun _ => isDigit_digits) h fun hmem => H.hex i.text newline hmem rfl

/-- What the digest sees of the first tree it also sees of the second, but for the kinds. -/
def SeenAlike (t t' : SourceTree) : Prop :=
  ∀ i ∈ t.seenItems, ∃ i' ∈ t'.seenItems, i'.relative = i.relative ∧ i'.permissions = i.permissions ∧
    i'.text = i.text

/-- Trees with the same digest and the same count are seen alike. -/
theorem seenAlike_of_digest (hfree : H.CollisionFree (hashedMessages H t ++ hashedMessages H t'))
    (hnames : t.NoHiddenLines) (hnames' : t'.NoHiddenLines)
    (hdigest : treeDigest H t = treeDigest H t') (hcount : fileCount t = fileCount t') :
    SeenAlike t t' := by
  intro i hi
  have htext : treeText H t = treeText H t' :=
    hfree _ (List.mem_append_left _ List.mem_cons_self) _ (List.mem_append_right _ List.mem_cons_self)
      hdigest
  have hlines : t.seenItems.map (itemLine H) = t'.seenItems.map (itemLine H) := by
    apply joinLines_inj
    · intro l hl
      obtain ⟨j, hj, rfl⟩ := List.mem_map.mp hl
      exact closed_itemLine (hnames j hj)
    · intro l hl
      obtain ⟨j, hj, rfl⟩ := List.mem_map.mp hl
      exact closed_itemLine (hnames' j hj)
    · rw [List.length_map, List.length_map, length_seenItems, length_seenItems, hcount]
    · rw [← treeText_eq, ← treeText_eq, htext]
  have hline : itemLine H i ∈ t'.seenItems.map (itemLine H) := hlines ▸ List.mem_map_of_mem hi
  obtain ⟨i', hi', heq⟩ := List.mem_map.mp hline
  obtain ⟨hpermissions, hname, hhash⟩ := itemLine_inj heq
  refine ⟨i', hi', hname, hpermissions, ?_⟩
  apply hfree _ _ _ _ hhash
  · exact List.mem_append_right _ (List.mem_cons_of_mem _ (List.mem_map_of_mem hi'))
  · exact List.mem_append_left _ (List.mem_cons_of_mem _ (List.mem_map_of_mem hi))

/-- A component passes with the count, the digest and the licence of the lock, and only with these. -/
theorem componentErrors_eq_nil_iff {c : Component} {license : Option Bytes} :
    componentErrors H c (some t) license = [] ↔ fileCount t = c.fileCount ∧
      treeDigest H t = c.patchedTreeDigest ∧ license.map H.digest = some c.licenseDigest := by
  have hlicense : licenseErrors H c license = [] ↔ license.map H.digest = some c.licenseDigest := by
    cases license with
    | none => simp [licenseErrors]
    | some text => by_cases h : H.digest text = c.licenseDigest <;> simp [licenseErrors, h]
  rw [componentErrors, List.append_eq_nil_iff, List.append_eq_nil_iff, hlicense]
  by_cases hcount : fileCount t = c.fileCount
  · by_cases hdigest : treeDigest H t = c.patchedTreeDigest <;> simp [hcount, hdigest]
  · simp [hcount]

/-- Two trees that pass the check of one component are seen alike. -/
theorem seenAlike_of_lock {c : Component} {license license' : Option Bytes}
    (h : componentErrors H c (some t) license = [])
    (h' : componentErrors H c (some t') license' = [])
    (hfree : H.CollisionFree (hashedMessages H t ++ hashedMessages H t'))
    (hnames : t.NoHiddenLines) (hnames' : t'.NoHiddenLines) : SeenAlike t t' := by
  obtain ⟨hcount, hdigest, -⟩ := componentErrors_eq_nil_iff.mp h
  obtain ⟨hcount', hdigest', -⟩ := componentErrors_eq_nil_iff.mp h'
  exact seenAlike_of_digest hfree hnames hnames' (hdigest.trans hdigest'.symm)
    (hcount.trans hcount'.symm)

/-- A link to a directory is one in the other tree if that has it at all. -/
theorem directoryLink_of_item (hseen : SeenAlike t' t) (hi : i ∈ t.directoryLinks)
    (hitem : i ∈ t'.items) : i ∈ t'.directoryLinks := by
  rcases SourceTree.mem_items.mp hitem with hfile | hlink
  · obtain ⟨j, hj, hname, -⟩ := hseen i hfile
    exact absurd hname (SourceTree.relative_ne hj hi)
  · exact hlink

theorem mem_items_of_alike (hseen : SeenAlike t t') (hkinds : t.SameKinds t')
    (hlinks : t.SameDirectoryLinks t') (hi : i ∈ t.items) : i ∈ t'.items := by
  rcases SourceTree.mem_items.mp hi with hfile | hlink
  · obtain ⟨i', hi', hname, hpermissions, htext⟩ := hseen i hfile
    have hkind := hkinds i hfile i' hi' hname.symm
    have heq : i = i' := by
      obtain ⟨relative, kind, permissions, text⟩ := i
      obtain ⟨relative', kind', permissions', text'⟩ := i'
      cases hname
      cases hpermissions
      cases htext
      cases hkind
      rfl
    exact SourceTree.mem_items.mpr (.inl (heq ▸ hi'))
  · exact SourceTree.mem_items.mpr (.inr ((hlinks i).mp hlink))

/-- Two trees that are seen alike hold the same exactly if their kinds and their links to directories
are the same. -/
theorem sameItems_iff (hseen : SeenAlike t t') (hseen' : SeenAlike t' t) :
    t.SameItems t' ↔ t.SameKinds t' ∧ t.SameDirectoryLinks t' := by
  constructor
  · intro hsame
    refine ⟨?_, fun i => ⟨?_, ?_⟩⟩
    · intro i hi i' hi' hname
      have hitem := (hsame i).mp (SourceTree.mem_items.mpr (.inl hi))
      rw [SourceTree.item_unique hitem (SourceTree.mem_items.mpr (.inl hi')) hname]
    · intro hi
      exact directoryLink_of_item hseen' hi ((hsame i).mp (SourceTree.mem_items.mpr (.inr hi)))
    · intro hi
      exact directoryLink_of_item hseen hi ((hsame i).mpr (SourceTree.mem_items.mpr (.inr hi)))
  · rintro ⟨hkinds, hlinks⟩ i
    constructor
    · exact mem_items_of_alike hseen hkinds hlinks
    · apply mem_items_of_alike hseen'
      · exact fun i hi i' hi' hname => (hkinds i' hi' i hi hname.symm).symm
      · exact fun i => (hlinks i).symm

/-- Among trees whose names hide no line of the list, with the same digest and the same count, the digest
pins the names, the permissions and the contents of what it sees, and it pins the whole tree exactly if no
name changes its kind and no link to a directory comes or goes. -/
theorem treeDigest_pins_iff (hfree : H.CollisionFree (hashedMessages H t ++ hashedMessages H t'))
    (hnames : t.NoHiddenLines) (hnames' : t'.NoHiddenLines)
    (hdigest : treeDigest H t = treeDigest H t') (hcount : fileCount t = fileCount t') :
    (SeenAlike t t' ∧ SeenAlike t' t) ∧
      (t.SameItems t' ↔ t.SameKinds t' ∧ t.SameDirectoryLinks t') := by
  have hfree' : H.CollisionFree (hashedMessages H t' ++ hashedMessages H t) := by
    intro m hm m' hm'
    exact hfree m (List.mem_append.mpr (List.mem_append.mp hm).symm) m'
      (List.mem_append.mpr (List.mem_append.mp hm').symm)
  have hseen := seenAlike_of_digest hfree hnames hnames' hdigest hcount
  have hseen' := seenAlike_of_digest hfree' hnames' hnames hdigest.symm hcount.symm
  exact ⟨⟨hseen, hseen'⟩, sameItems_iff hseen hseen'⟩

end Digest

theorem isDotEntry_of_last {path : Bytes} (h : path.getLast? ≠ some dot) : isDotEntry path = false := by
  have hsuffix (s : Bytes) (hs : s.getLast? = some dot) : s.isSuffixOf path = false := by
    by_contra hends
    obtain ⟨front, rfl⟩ := List.isSuffixOf_iff_suffix.mp (Bool.not_eq_false _ ▸ hends)
    apply h
    rw [List.getLast?_append, hs, Option.some_or]
  rw [isDotEntry, hsuffix _ (by decide), hsuffix _ (by decide)]
  rfl

/-- A tree whose names do not end in a dot. -/
def plainTree (listing : List Entry) (nodup : (listing.map Entry.relative).Nodup)
    (hdots : ∀ e ∈ listing, ∃ c, e.relative.getLast? = some c ∧ c ≠ dot) : SourceTree where
  path := goString "src"
  listing := listing
  nodup := nodup
  dots e he hdot := by
    obtain ⟨c, hlast, hc⟩ := hdots e he
    have hne : e.relative ≠ [] := by
      intro hempty
      rw [hempty] at hlast
      cases hlast
    rw [isDotEntry_of_last] at hdot
    · cases hdot
    · rw [Entry.fullPath, List.getLast?_append, List.getLast?_cons_of_ne_nil hne, hlast, Option.some_or]
      exact fun heq => hc (Option.some.inj heq)

/-- A tree that is listed in order and has no directory is seen as it is listed. -/
theorem SourceTree.entries_of_sorted {t : SourceTree}
    (hfile : ∀ e ∈ t.listing, e.node.isDirectory = false)
    (hsorted : t.listing.Pairwise fun a b => pathLE (a.fullPath t.path) (b.fullPath t.path) = true) :
    t.entries = t.listing := by
  have hdots : t.listing.filter (fun e => !isDotEntry (e.fullPath t.path)) = t.listing := by
    rw [List.filter_eq_self]
    intro e he
    by_contra hdot
    have hdirectory := t.dots e he (by simpa using hdot)
    rw [hfile e he] at hdirectory
    cases hdirectory
  have hlisted : t.listed = t.listing := by
    rw [listed, hdots, List.filter_eq_self]
    intro e he
    rw [hfile e he]
    rfl
  rw [entries, hlisted]
  exact hsorted.insertionSort_eq

def emptyTree : SourceTree := plainTree [] List.nodup_nil (by simp)

def linkedTree : SourceTree :=
  plainTree [⟨goString "vendor", .link 0o120777 (goString "..") true⟩] (List.nodup_singleton _) (by decide)

def fileTree : SourceTree :=
  plainTree [⟨goString "a", .file 0o100777 (goString "b")⟩] (List.nodup_singleton _) (by decide)

/-- The same tree with a link of that letter in place of the file. -/
def linkTree : SourceTree :=
  plainTree [⟨goString "a", .link 0o120777 (goString "b") false⟩] (List.nodup_singleton _) (by decide)

def movedTree : SourceTree := { fileTree with path := goString "lib", dots := by decide }

/-- SHA-256 of the content of this file, of the list of these trees and of the empty text, which here stands
for all others. -/
def recordedDigest (message : Bytes) : Bytes :=
  if message = goString "b" then
    goString "3e23e8160039594a33894f6564e1b1348bbd7a0088d42c4acb73eeaed59c009d"
  else if message = joinLines [line (goString "777") (goString "a")
      (goString "3e23e8160039594a33894f6564e1b1348bbd7a0088d42c4acb73eeaed59c009d")] then
    goString "dbc58e022063f1d6fb08f9fefc16447488464cebb4c96f9d7bb8ef7fab5b75f6"
  else goString "e3b0c44298fc1c149afbf4c8996fb92427ae41e4649b934ca495991b7852b855"

def recordedHex : Hexdigest where
  digest := recordedDigest
  hex message := by
    unfold recordedDigest
    split
    · decide +kernel
    · split <;> decide +kernel

theorem treeDigest_pins_iff_moved :
    treeDigest recordedHex fileTree =
        goString "dbc58e022063f1d6fb08f9fefc16447488464cebb4c96f9d7bb8ef7fab5b75f6" ∧
      fileTree.SameItems movedTree := by
  have hfree : recordedHex.CollisionFree
      (hashedMessages recordedHex fileTree ++ hashedMessages recordedHex movedTree) := by
    decide +kernel
  have hdigest : treeDigest recordedHex fileTree = treeDigest recordedHex movedTree := rfl
  refine ⟨by decide +kernel, ?_⟩
  exact (treeDigest_pins_iff hfree (by decide) (by decide) hdigest rfl).2.mpr
    ⟨by decide, fun i => Iff.rfl⟩

/-- A name with a whole line of the listing in it. -/
def splitName (first last : UInt8) : Bytes :=
  first :: tab :: (H.digest [] ++ newline :: (digits 8 0o644 ++ [tab, last]))

theorem getLast?_splitName (first last : UInt8) : (splitName H first last).getLast? = some last := by
  have hsplit : splitName H first last =
      first :: tab :: (H.digest [] ++ newline :: (digits 8 0o644 ++ [tab])) ++ [last] := by
    simp [splitName]
  rw [hsplit, List.getLast?_append, List.getLast?_singleton, Option.some_or]

/-- Two empty files, the line of a third one hidden in the name of the second. -/
def hiddenBehind : SourceTree :=
  plainTree [⟨[0x61], .file 0o100644 []⟩, ⟨splitName H 0x62 0x63, .file 0o100644 []⟩]
    (by simp [splitName]) (by simp [getLast?_splitName, dot])

/-- Two empty files, the line of a third one hidden in the name of the first. -/
def hiddenBefore : SourceTree :=
  plainTree [⟨splitName H 0x61 0x62, .file 0o100644 []⟩, ⟨[0x63], .file 0o100644 []⟩]
    (by simp [splitName]) (by simp [getLast?_splitName, dot])

theorem seenItems_hiddenBehind : (hiddenBehind H).seenItems =
    [⟨[0x61], .regular, 0o644, []⟩, ⟨splitName H 0x62 0x63, .regular, 0o644, []⟩] := by
  rw [SourceTree.seenItems, SourceTree.entries_of_sorted]
  · rfl
  · simp [hiddenBehind, plainTree, Node.isDirectory]
  · exact List.pairwise_pair.mpr rfl

theorem seenItems_hiddenBefore : (hiddenBefore H).seenItems =
    [⟨splitName H 0x61 0x62, .regular, 0o644, []⟩, ⟨[0x63], .regular, 0o644, []⟩] := by
  rw [SourceTree.seenItems, SourceTree.entries_of_sorted]
  · rfl
  · simp [hiddenBefore, plainTree, Node.isDirectory]
  · exact List.pairwise_pair.mpr rfl

/-- The two trees are listed with the same text, cut at different places. -/
theorem treeText_hidden : treeText H (hiddenBehind H) = treeText H (hiddenBefore H) := by
  rw [treeText_eq, treeText_eq, seenItems_hiddenBehind, seenItems_hiddenBefore]
  simp [joinLines, itemLine, line, splitName, List.intercalate]

theorem hidden_differ : ¬ (hiddenBehind H).SameItems (hiddenBefore H) := by
  intro hsame
  have hmem : ⟨[0x61], .regular, 0o644, []⟩ ∈ (hiddenBefore H).items := by
    rw [← hsame, SourceTree.mem_items, seenItems_hiddenBehind]
    exact .inl List.mem_cons_self
  simp [SourceTree.items, hiddenBefore, plainTree, Entry.item, splitName] at hmem

/-- Whatever the digest is: a link to a directory can be added, a file can be replaced by a link, and
files can be renamed, with the digest and the count unchanged. -/
theorem treeDigest_blind :
    ((∀ H, treeDigest H emptyTree = treeDigest H linkedTree) ∧ fileCount emptyTree = fileCount linkedTree ∧
      ¬ emptyTree.SameItems linkedTree) ∧
    ((∀ H, treeDigest H fileTree = treeDigest H linkTree) ∧ fileCount fileTree = fileCount linkTree ∧
      ¬ fileTree.SameItems linkTree) ∧
    ∀ H, treeDigest H (hiddenBehind H) = treeDigest H (hiddenBefore H) ∧
      fileCount (hiddenBehind H) = fileCount (hiddenBefore H) ∧
      ¬ (hiddenBehind H).SameItems (hiddenBefore H) := by
  refine ⟨⟨fun _ => rfl, rfl, ?_⟩, ⟨fun _ => rfl, rfl, ?_⟩, fun H => ⟨?_, ?_, hidden_differ H⟩⟩
  · intro hsame
    have hmem := (hsame ⟨goString "vendor", .symbolicLink, 0o777, goString ".."⟩).mpr
      (List.mem_singleton_self _)
    exact absurd hmem (by decide)
  · intro hsame
    have hmem := (hsame ⟨goString "a", .regular, 0o777, goString "b"⟩).mp (List.mem_singleton_self _)
    exact absurd hmem (by decide)
  · rw [treeDigest, treeDigest, treeText_hidden]
  · rw [← length_seenItems, ← length_seenItems, seenItems_hiddenBehind, seenItems_hiddenBefore]
    rfl

end FoloXray.Release
