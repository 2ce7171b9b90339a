import TokenAcquisition.SortedMap
import TokenAcquisition.Text.Characters

/-!
Clouds.  Several hosts name the same cloud; each cloud has one host that credentials are cached
under.  A registry knows the cloud of a host by whatever registration named it last.
-/

namespace TokenAcquisition

/-- A cloud: the host to connect to, the host to cache under, and other names. -/
structure Cloud where
  networkHost : String
  cacheHost : String
  aliases : List String
  deriving DecidableEq, Repr

def Cloud.hosts (cloud : Cloud) : List String :=
  cloud.aliases ++ [cloud.networkHost, cloud.cacheHost]

/-- Clouds by the small-letter form of each host that names them. -/
structure CloudRegistry where
  byHost : SortedMap Cloud := .empty

namespace CloudRegistry

/-- The registry with a cloud that takes over all its hosts. -/
def register (registry : CloudRegistry) (cloud : Cloud) : CloudRegistry :=
  ⟨cloud.hosts.foldl (fun m host => m.insert (Text.lowerAscii host) cloud) registry.byHost⟩

/-- The registry with further clouds, the last one taking over last. -/
def registerAll (registry : CloudRegistry) (clouds : List Cloud) : CloudRegistry :=
  clouds.foldl register registry

def lookup (registry : CloudRegistry) (host : String) : Option Cloud :=
  registry.byHost.find? (Text.lowerAscii host)

def size (registry : CloudRegistry) : Nat :=
  registry.byHost.size

/-- The public cloud and the two national ones. -/
def knownClouds : List Cloud :=
  [{ networkHost := "login.microsoftonline.com"
     cacheHost := "login.windows.net"
     aliases := ["login.microsoftonline.com", "login.windows.net", "login.microsoft.com",
       "sts.windows.net"] },
   { networkHost := "login.microsoftonline.us"
     cacheHost := "login.microsoftonline.us"
     aliases := ["login.microsoftonline.us", "login.usgovcloudapi.net"] },
   { networkHost := "login.partner.microsoftonline.cn"
     cacheHost := "login.partner.microsoftonline.cn"
     aliases := ["login.partner.microsoftonline.cn", "login.chinacloudapi.cn"] }]

def wellKnown : CloudRegistry :=
  CloudRegistry.registerAll {} knownClouds

end CloudRegistry

end TokenAcquisition
