import VmDhcpController.Go.Netip

/-!
# CIDR parsing

`net.ParseCIDR` is how the util package reads an IPPool's CIDR. It cuts the string at its
first `/`, parses the address with `netip.ParseAddr` and the prefix length with `dtoi`, and
returns the address as 16 bytes and the network, as the address masked with
`CIDRMask(n, bits)`. `IP.Mask` drops an IPv4 address's IPv6 prefix when the mask is IPv4 sized,
so the network of an IPv4 CIDR is 4 bytes long and that of an IPv6 CIDR 16 bytes long.

`dtoi` counts the bytes it consumes; the model counts characters. The two counts reach the
length of the prefix text at the same time, since a character that is not an ASCII digit
stops both.
-/

namespace VmDhcpController

/-- `net.IP`. -/
abbrev IP := List Byte

/-- `net.IPMask`. -/
abbrev IPMask := List Byte

/-- `net.IPNet`. -/
structure IPNet where
  ip : IP
  mask : IPMask
  deriving DecidableEq, Repr

/-- `net.ParseError`. -/
structure ParseError where
  type : String
  text : String
  deriving DecidableEq, Repr

/-- `v4InV6Prefix`: the first 12 bytes of an IPv4 address mapped into IPv6. -/
def v4InV6Prefix : List Byte := [0, 0, 0, 0, 0, 0, 0, 0, 0, 0, 0xff, 0xff]

/-- The loop of `CIDRMask`: `l` bytes with the first `n` bits set. -/
def cidrMaskLoop : Nat → Nat → IPMask
  | 0, _ => []
  | l + 1, n =>
    if n ≥ 8 then 0xff :: cidrMaskLoop l (n - 8) else ~~~((0xff : Byte) >>> n) :: cidrMaskLoop l 0

/-- `CIDRMask(ones, bits)`: `nil` unless `bits` is 32 or 128 and `ones` at most `bits`. -/
def cidrMask (ones bits : Nat) : IPMask :=
  if bits ≠ 32 ∧ bits ≠ 128 then []
  else if ones > bits then []
  else cidrMaskLoop (bits / 8) ones

/-- `IP.Mask`: the bytes of `ip` masked with `mask`, after matching an IPv4 address with an
IPv6 sized mask or the other way round; `nil` when the lengths still differ. -/
def IP.mask (ip : IP) (mask : IPMask) : IP :=
  let mask := if mask.length = 16 ∧ ip.length = 4 ∧ (mask.take 12).all (· = 0xff) then mask.drop 12
    else mask
  let ip := if mask.length = 4 ∧ ip.length = 16 ∧ ip.take 12 = v4InV6Prefix then ip.drop 12 else ip
  if ip.length ≠ mask.length then [] else List.zipWith (· &&& ·) ip mask

/-- `big`: where `dtoi` gives up. -/
def big : Nat := 0xFFFFFF

/-- The loop of `dtoi`: the number, the digits consumed, and whether the number stayed below
`big`. -/
def dtoiLoop : List Char → Nat → Nat → Nat × Nat × Bool
  | [], n, i => (n, i, true)
  | c :: cs, n, i =>
    if '0' ≤ c ∧ c ≤ '9' then
      let n := n * 10 + (c.toNat - '0'.toNat)
      if n ≥ big then (big, i, false) else dtoiLoop cs n (i + 1)
    else (n, i, true)

/-- `dtoi`: the decimal number at the start of `s`, the characters it takes, and whether
there is one. -/
def dtoi (s : String) : Nat × Nat × Bool :=
  match dtoiLoop s.toList 0 0 with
  | (n, i, false) => (n, i, false)
  | (n, i, true) => if i = 0 then (0, 0, false) else (n, i, true)

/-- `net.ParseCIDR`, with `netip.ParseAddr` given. -/
def parseCIDR (parseAddr : AddrParser) (s : String) : Except ParseError (IP × IPNet) :=
  let err : ParseError := ⟨"CIDR address", s⟩
  match s.splitOn "/" with
  | [] | [_] => .error err
  | addr :: rest =>
    let mask := "/".intercalate rest
    match parseAddr.parse addr with
    | none => .error err
    | some ipAddr =>
      if ipAddr.zone ≠ "" then .error err
      else
        match dtoi mask with
        | (n, i, ok) =>
          if !ok ∨ i ≠ mask.length ∨ n > ipAddr.bitLen then .error err
          else
            let m := cidrMask n ipAddr.bitLen
            let addr16 := ipAddr.as16
            .ok (addr16, ⟨IP.mask addr16 m, m⟩)

end VmDhcpController
