import VmDhcpController.Api.Types
import VmDhcpController.Go.Map
import VmDhcpController.Go.Net

/-!
# Address helpers of the util package

`LoadCIDR` turns an IPPool's CIDR into its network and broadcast addresses: the network is
the `IPNet.IP` that `net.ParseCIDR` returns, and the broadcast is that network with every
host bit set, byte by byte. `IsIPInBetweenOf` is the inclusive range test the pool code
applies to them. `LoadPool` adds to them the addresses of an IPPool's IPv4 configuration: each
is the zero `Addr` when its field is empty. `LoadAllocated` sorts the entries of a pool's allocation map by their mark.

A Go panic is `none`. `LoadCIDR` and `LoadPool` also return the partial results they have
when they fail; their callers ignore them, and the model leaves them out.
-/

namespace VmDhcpController

/-- What makes `LoadCIDR` fail: the CIDR does not parse, or a slice is not an address. -/
inductive LoadCIDRError
  | parseCIDR (err : ParseError)
  | cannotConvert (ip : IP)
  deriving DecidableEq, Repr

/-- The loop `broadcastIP[i] |= ^ipNet.Mask[i]` over the indices of `ip`; `none` where it
would index the mask out of range. -/
def orNotMask : IP → IPMask → Option IP
  | [], _ => some []
  | _ :: _, [] => none
  | b :: bs, m :: ms => (orNotMask bs ms).map ((b ||| ~~~m) :: ·)

/-- `LoadCIDR`: the network of `cidr`, its network address and its broadcast address. -/
def loadCIDR (parseAddr : AddrParser) (cidr : String) :
    Option (Except LoadCIDRError (IPNet × Addr × Addr)) :=
  match parseCIDR parseAddr cidr with
  | .error err => some (.error (.parseCIDR err))
  | .ok (_, ipNet) =>
    match addrFromSlice ipNet.ip with
    | none => some (.error (.cannotConvert ipNet.ip))
    | some networkIPAddr =>
      (orNotMask ipNet.ip ipNet.mask).map fun broadcastIP =>
        match addrFromSlice broadcastIP with
        | none => .error (.cannotConvert broadcastIP)
        | some broadcastIPAddr => .ok (ipNet, networkIPAddr, broadcastIPAddr)

/-- `PoolInfo`. -/
structure PoolInfo where
  ipNet : IPNet
  networkIPAddr : Addr
  broadcastIPAddr : Addr
  startIPAddr : Addr
  endIPAddr : Addr
  serverIPAddr : Addr
  routerIPAddr : Addr
  deriving DecidableEq, Repr

/-- What makes `LoadPool` fail: `LoadCIDR` does, or `netip.ParseAddr` refuses a field. -/
inductive LoadPoolError
  | loadCIDR (err : LoadCIDRError)
  | parseAddr (s : String)
  deriving DecidableEq, Repr

/-- The body of each of `LoadPool`'s four address blocks: the zero `Addr` when the field is
empty, else the address `netip.ParseAddr` reads from it. -/
def loadPoolAddr (parseAddr : AddrParser) (s : String) : Except LoadPoolError Addr :=
  if s ≠ "" then
    match parseAddr.parse s with
    | none => .error (.parseAddr s)
    | some a => .ok a
  else .ok .zero

/-- `LoadPool`: the network of an IPPool's CIDR, and the start and end of its range, its DHCP
server and its router, in the order the source reads them. -/
def loadPool (parseAddr : AddrParser) (ipPool : IPPool) : Option (Except LoadPoolError PoolInfo) :=
  (loadCIDR parseAddr ipPool.cidr).map fun r => do
    let (ipNet, networkIPAddr, broadcastIPAddr) ← r.mapError .loadCIDR
    let startIPAddr ← loadPoolAddr parseAddr ipPool.poolStart
    let endIPAddr ← loadPoolAddr parseAddr ipPool.poolEnd
    let serverIPAddr ← loadPoolAddr parseAddr ipPool.serverIP
    let routerIPAddr ← loadPoolAddr parseAddr ipPool.router
    pure ⟨ipNet, networkIPAddr, broadcastIPAddr, startIPAddr, endIPAddr, serverIPAddr, routerIPAddr⟩

/-- `IsIPInBetweenOf`: whether `ip` lies between `ip1` and `ip2`, both included. -/
def isIPInBetweenOf (parseAddr : AddrParser) (ip ip1 ip2 : String) : Bool :=
  match parseAddr.parse ip, parseAddr.parse ip1, parseAddr.parse ip2 with
  | some ipAddr, some ip1Addr, some ip2Addr =>
    decide (ipAddr.compare ip1Addr ≥ 0) && decide (ipAddr.compare ip2Addr ≤ 0)
  | _, _, _ => false

/-- `IsIPAddrInList`. -/
def isIPAddrInList (ipAddr : Addr) (ipAddrList : List Addr) : Bool :=
  ipAddrList.any (· = ipAddr)

/-- The marks of an allocation map entry, `ExcludedMark` and `ReservedMark`, which are not
part of the source given here. -/
structure Marks where
  excludedMark : String
  reservedMark : String

/-- The body of `LoadAllocated`'s loop: sort one entry by its mark, skipping a key that is not
an address. -/
def loadAllocatedEntry (parseAddr : AddrParser) (marks : Marks)
    (acc : List Addr × List Addr × List Addr) (e : String × String) :
    List Addr × List Addr × List Addr :=
  match parseAddr.parse e.1 with
  | none => acc
  | some ipAddr =>
    if e.2 = marks.excludedMark then (acc.1, acc.2.1 ++ [ipAddr], acc.2.2)
    else if e.2 = marks.reservedMark then (acc.1, acc.2.1, acc.2.2 ++ [ipAddr])
    else (acc.1 ++ [ipAddr], acc.2.1, acc.2.2)

/-- `LoadAllocated`: the allocated, excluded and reserved addresses of an allocation map, in
the order its `range` visits them. -/
def loadAllocated (parseAddr : AddrParser) (marks : Marks) (o : MapOrder String String)
    (allocated : GoMap String String) : List Addr × List Addr × List Addr :=
  (o.visit allocated.entries).foldl (loadAllocatedEntry parseAddr marks) ([], [], [])

end VmDhcpController
