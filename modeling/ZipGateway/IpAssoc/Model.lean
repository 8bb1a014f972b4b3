import Mathlib.Data.Nat.Notation

/-!
# IP associations

The entries of the table of `src/src/Bridge_ip_assoc.c`, which the data store keeps.
-/

set_option autoImplicit false

namespace ZipGateway.IpAssoc

def maxIpAssociations : ℕ := 200

/-- `uip_ip6addr_t`. -/
abbrev Ip6Addr : Type := BitVec 128

/-- `ip_assoc_type_t`; the zero of a block that was never used is no type. -/
inductive IpAssocType where
  | unset
  | permanentIpAssoc
  | localIpAssoc
  | proxyIpAssoc
deriving DecidableEq, Repr

/-- `ip_association_t`, without the link of the list. -/
structure IpAssociation where
  virtualId : UInt16
  type : IpAssocType
  resourceIp : Ip6Addr
  resourceEndpoint : UInt8
  resourcePort : UInt16
  virtualEndpoint : UInt8
  grouping : UInt8
  hanNodeid : UInt16
  hanEndpoint : UInt8
  wasDtls : UInt8
  markRemoval : UInt8
deriving DecidableEq, Repr

end ZipGateway.IpAssoc
