import FoloXray.Routing.Matcher

/-! # Routing decisions

The configuration of the router, its built-in suffix tables, and the action chosen for a target.
-/

namespace FoloXray.Routing
open Foundation

def builtinDirectSuffixes : List Bytes :=
  ["cn", "xn--fiqs8s", "xn--55qx5d", "xn--io0a7i", "apple.com", "icloud.com",
   "icloud-content.com", "cdn-apple.com", "mzstatic.com", "aaplimg.com", "apple-cloudkit.com",
   "apple-livephotoskit.com", "qq.com", "weixin.com", "qpic.cn", "qlogo.cn", "tenpay.com",
   "tencent.com", "tencent-cloud.net", "gtimg.cn", "gtimg.com", "wechat.com", "taobao.com",
   "tmall.com", "alipay.com", "alipayobjects.com", "alibaba.com", "alicdn.com", "aliyun.com",
   "aliyuncs.com", "tbcdn.cn", "1688.com", "baidu.com", "bdimg.com", "bdstatic.com",
   "baidupcs.com", "hao123.com", "bilibili.com", "hdslb.com", "bilivideo.com", "biliapi.net",
   "douyin.com", "bytedance.com", "byteimg.com", "douyincdn.com", "zjurl.cn", "toutiao.com",
   "feishu.cn", "jd.com", "360buyimg.com", "jdpay.com", "163.com", "126.net", "yeah.net",
   "netease.com", "127.net", "meituan.com", "dianping.com", "dpfile.com", "meituan.net",
   "zhihu.com", "zhimg.com", "weibo.com", "weibo.cn", "sinaimg.cn", "sina.com.cn",
   "xiaohongshu.com", "xhscdn.com", "xiaomi.com", "mi.com", "mi-img.com", "huawei.com",
   "dbankcdn.com", "honor.cn", "honor.com", "oppo.com", "vivo.com", "amap.com", "autonavi.com",
   "gaode.com", "unionpay.com", "95516.com", "icbc.com.cn", "ccb.com", "boc.cn", "abchina.com",
   "cmbchina.com", "bankofchina.com", "kuaishou.com", "kuaishoupay.com", "youku.com",
   "iqiyi.com", "qiyi.cn", "mgtv.com", "ximalaya.com", "kugou.com", "kuwo.cn"].map goString

def builtinBlockSuffixes : List Bytes :=
  ["googleads.g.doubleclick.net", "pagead2.googlesyndication.com", "adservice.google.com",
   "adcolony.com", "unityads.unity3d.com", "applovin.com", "vungle.com",
   "ironsrc.com"].map goString

def modeRule : Bytes := goString "rule"
def modeGlobal : Bytes := goString "global"
def modeDirect : Bytes := goString "direct"

structure Config where
  mode : Bytes
  customDirectDomains : List Bytes
  customProxyDomains : List Bytes
  customBlockDomains : List Bytes
  customDirectIPs : List Bytes
  customProxyIPs : List Bytes
  customBlockIPs : List Bytes
  deriving DecidableEq, Repr

structure Router where
  mode : Bytes
  domainMatcher : DomainMatcher
  ipMatcher : IPMatcher

def addSuffixes (m : DomainMatcher) (suffixes : List Bytes) (action : RouteAction) :
    DomainMatcher :=
  suffixes.foldl (fun m d => addSuffix m d action) m

/-- Entries that are no address block are skipped, as the source ignores the error. -/
def addCIDRs (m : IPMatcher) (cidrs : List Bytes) (action : RouteAction) : IPMatcher :=
  cidrs.foldl (fun m cidr => (addCIDR m cidr action).toOption.getD m) m

/-- The domain rules: custom lists first, then the built-in tables in rule mode. -/
def domainRules (mode : Bytes) (cfg : Config) : DomainMatcher :=
  let dm := addSuffixes newDomainMatcher cfg.customBlockDomains .block
  let dm := addSuffixes dm cfg.customDirectDomains .direct
  let dm := addSuffixes dm cfg.customProxyDomains .proxy
  if mode = modeRule then
    addSuffixes (addSuffixes dm builtinBlockSuffixes .block) builtinDirectSuffixes .direct
  else dm

def ipRules (cfg : Config) : IPMatcher :=
  let im := addCIDRs newIPMatcher cfg.customBlockIPs .block
  let im := addCIDRs im cfg.customDirectIPs .direct
  addCIDRs im cfg.customProxyIPs .proxy

def newRouter (cfg : Config) : Router :=
  let mode := if cfg.mode = [] then modeRule else cfg.mode
  ⟨mode, domainRules mode cfg, ipRules cfg⟩

/-- The action for a target; the port plays no part in it. -/
def route (r : Router) (domain : Bytes) (ip : Option Bytes) (_port : UInt16) : RouteAction :=
  if isPrivateIP ip then .direct
  else if r.mode = modeGlobal then .proxy
  else if r.mode = modeDirect then .direct
  else
    let cleanDomain := trimSpace domain
    let byDomain := if cleanDomain ≠ [] then matchDomain r.domainMatcher cleanDomain else none
    match byDomain.orElse fun _ => matchIP r.ipMatcher ip with
    | some action => action
    | none => if r.mode = modeRule && isChinaIP ip then .direct else .proxy

end FoloXray.Routing
