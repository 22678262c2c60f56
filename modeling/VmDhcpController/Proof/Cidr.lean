import VmDhcpController.Util.Network
import Mathlib.Tactic.IntervalCases

/-!
# The addresses of a CIDR and of a pool

`LoadCIDR` fails exactly when `net.ParseCIDR` does: the network `ParseCIDR` returns is 4 or
16 bytes long with a mask of the same length, so both slices `LoadCIDR` converts are
addresses and its loop stays inside the mask. For a CIDR with prefix length `n` over an
address family of `L` bits, the network address keeps the first `n` bits of the address and
clears the others, and the broadcast address sets them. So an address with no zone lies
between the two in `Compare`'s order, both ends included, exactly when it is of the same
family and agrees with the network on its first `n` bits (`loadCIDR_spec`).

`LoadPool` fails exactly when the CIDR or a set address field does not parse. Since
`ParseAddr` never returns the zero `Addr`, a pool address is zero exactly when its field is
empty (`loadPool_spec`).

The proof reads each byte slice as a number (`beVal`): masking byte by byte masks the number
(`beVal_zipWith`), and `CIDRMask(n, L)` spells `2 ^ (L - n) * (2 ^ n - 1)`.
-/

namespace VmDhcpController

/-! ## Byte slices as numbers -/

/-- A bitwise operation works on the high and the low bits of two numbers apart. -/
theorem bitwise_two_pow_mul_add {f : Bool → Bool → Bool} (hf : f false false = false) {k : Nat}
    (x y : Nat) {A B : Nat} (hA : A < 2 ^ k) (hB : B < 2 ^ k) :
    Nat.bitwise f (2 ^ k * x + A) (2 ^ k * y + B) =
      2 ^ k * Nat.bitwise f x y + Nat.bitwise f A B := by
  apply Nat.eq_of_testBit_eq
  intro i
  rw [Nat.testBit_bitwise hf, Nat.testBit_mul_pow_two_add _ hA, Nat.testBit_mul_pow_two_add _ hB,
    Nat.testBit_mul_pow_two_add _ (Nat.bitwise_lt_two_pow hA hB)]
  split <;> rw [Nat.testBit_bitwise hf]

/-- Byte by byte, a bitwise operation computes it on the numbers the slices spell. -/
theorem beVal_zipWith {f : Bool → Bool → Bool} (hf : f false false = false)
    (g : Byte → Byte → Byte) (hg : ∀ a b, (g a b).toNat = Nat.bitwise f a.toNat b.toNat) :
    ∀ {xs ys : List Byte}, xs.length = ys.length →
      beVal (List.zipWith g xs ys) = Nat.bitwise f (beVal xs) (beVal ys)
  | [], [], _ => by simp [beVal, Nat.bitwise]
  | x :: xs, y :: ys, h => by
    have h' : xs.length = ys.length := Nat.succ.inj h
    rw [List.zipWith_cons_cons, beVal, beVal, beVal, List.length_zipWith, h', Nat.min_self,
      beVal_zipWith hf g hg h', hg, bitwise_two_pow_mul_add hf _ _ (h' ▸ beVal_lt xs) (beVal_lt ys)]

theorem beVal_map_not (xs : List Byte) :
    beVal (xs.map (~~~·)) + beVal xs + 1 = 2 ^ (8 * xs.length) := by
  induction xs with
  | nil => rfl
  | cons x xs ih =>
    have hx := x.isLt
    have hsplit : 2 ^ (8 * xs.length) * (2 ^ 8 - 1 - x.toNat) + 2 ^ (8 * xs.length) * x.toNat =
        2 ^ (8 * xs.length) * 255 := by
      rw [← Nat.mul_add, Nat.sub_add_cancel (by omega)]; rfl
    rw [List.map_cons, beVal, beVal, List.length_map, BitVec.toNat_not, List.length_cons,
      Nat.mul_succ, Nat.pow_add]
    omega

theorem length_cidrMaskLoop (l n : Nat) : (cidrMaskLoop l n).length = l := by
  induction l generalizing n with
  | zero => rfl
  | succ l ih => unfold cidrMaskLoop; split <;> simp [ih]

theorem maskByte_toNat {n : Nat} (hn : n < 8) :
    (~~~((0xff : Byte) >>> n)).toNat = 2 ^ (8 - n) * (2 ^ n - 1) := by
  interval_cases n <;> rfl

/-- The loop of `CIDRMask` spells `n` one bits followed by zeros. -/
theorem beVal_cidrMaskLoop (l : Nat) :
    ∀ n, n ≤ 8 * l → beVal (cidrMaskLoop l n) = 2 ^ (8 * l - n) * (2 ^ n - 1) := by
  induction l with
  | zero => intro n hn; simp at hn; simp [hn, cidrMaskLoop, beVal]
  | succ l ih =>
    intro n hn
    unfold cidrMaskLoop
    split
    · rename_i h8
      rw [beVal, length_cidrMaskLoop, ih (n - 8) (by omega)]
      -- the full byte carries eight of the `n` one bits
      obtain ⟨j, rfl⟩ : ∃ j, n = j + 8 := ⟨n - 8, by omega⟩
      have hj : 8 * l = (8 * l - j) + j := by omega
      have hpos : 1 ≤ 2 ^ j := Nat.one_le_two_pow
      rw [Nat.add_sub_cancel, hj, Nat.pow_add, Nat.add_sub_cancel, show 8 * (l + 1) - (j + 8) =
        8 * l - j by omega, Nat.pow_add 2 j 8, Nat.mul_assoc, ← Nat.mul_add]
      congr 1
      show 2 ^ j * 255 + (2 ^ j - 1) = 2 ^ j * 256 - 1
      omega
    · rename_i h8
      rw [beVal, length_cidrMaskLoop, ih 0 (Nat.zero_le _), maskByte_toNat (by omega)]
      rw [show 8 * (l + 1) - n = 8 * l + (8 - n) by omega, Nat.pow_add]
      simp [Nat.mul_assoc]

/-- `CIDRMask(n, L)` has `L / 8` bytes and spells `n` one bits followed by zeros. -/
theorem cidrMask_spec {n L : Nat} (hL : L = 32 ∨ L = 128) (hn : n ≤ L) :
    (cidrMask n L).length = L / 8 ∧ beVal (cidrMask n L) = 2 ^ (L - n) * (2 ^ n - 1) := by
  have hL' : ¬(L ≠ 32 ∧ L ≠ 128) := by omega
  rw [cidrMask, if_neg hL', if_neg (by omega), length_cidrMaskLoop,
    beVal_cidrMaskLoop _ _ (by omega), show 8 * (L / 8) = L by omega]
  exact ⟨rfl, rfl⟩

/-- Masking with `n` one bits keeps the first `n` bits of an `L`-bit number. -/
theorem and_prefixMask {V L n : Nat} (hV : V < 2 ^ L) (hn : n ≤ L) :
    V &&& 2 ^ (L - n) * (2 ^ n - 1) = 2 ^ (L - n) * (V / 2 ^ (L - n)) := by
  apply Nat.eq_of_testBit_eq
  intro i
  rw [Nat.testBit_and, Nat.testBit_mul_pow_two, Nat.testBit_mul_pow_two, Nat.testBit_two_pow_sub_one,
    ← Nat.shiftRight_eq_div_pow, Nat.testBit_shiftRight]
  by_cases h1 : L - n ≤ i
  · rw [show L - n + (i - (L - n)) = i by omega]
    by_cases h2 : i - (L - n) < n
    · simp [h1, h2]
    · have : V.testBit i = false :=
        Nat.testBit_lt_two_pow (Nat.lt_of_lt_of_le hV (Nat.pow_le_pow_right (by omega) (by omega)))
      simp [h1, h2, this]
  · simp [h1]

/-- An IPv4 address is stored after the 12 bytes of `v4InV6Prefix`. -/
theorem as16_v4 (a : BitVec 32) : (Addr.v4 a).as16 = v4InV6Prefix ++ bytesBE 4 (Addr.v4 a).addr := by
  have ha := a.isLt
  rw [Addr.as16, show 16 = 12 + 4 from rfl, bytesBE_add,
    show (Addr.v4 a).addr / 2 ^ (8 * 4) = 0xffff by simp only [Addr.addr]; omega]
  rfl

theorem bits_lt (a : Addr) : a.bits < 2 ^ a.bitLen := by
  cases a with
  | zero => exact Nat.one_pos
  | v4 a => exact a.isLt
  | v6 a _ => exact a.isLt

/-- The network `ParseCIDR` computes for an address and a prefix length: `L / 8` bytes that
keep the first `n` bits of the address. -/
theorem mask_as16 {a : Addr} (hL : a.bitLen = 32 ∨ a.bitLen = 128) {n : Nat} (hn : n ≤ a.bitLen) :
    8 * (IP.mask a.as16 (cidrMask n a.bitLen)).length = a.bitLen ∧
      beVal (IP.mask a.as16 (cidrMask n a.bitLen)) =
        2 ^ (a.bitLen - n) * (a.bits / 2 ^ (a.bitLen - n)) := by
  obtain ⟨hlen, hval⟩ := cidrMask_spec hL hn
  have hand := and_prefixMask (bits_lt a) hn
  cases a with
  | zero => simp [Addr.bitLen] at hL
  | v4 a =>
    have hb : beVal (bytesBE 4 (Addr.v4 a).addr) = a.toNat := by
      rw [beVal_bytesBE]; simp only [Addr.addr]; have := a.isLt; omega
    simp only [Addr.bitLen] at hlen hval hand ⊢
    simp only [IP.mask, as16_v4, hlen, List.length_append, length_bytesBE, v4InV6Prefix]
    simp [beVal_zipWith rfl (· &&& ·) (fun _ _ => BitVec.toNat_and _ _), hlen, hb, hval]
    exact hand
  | v6 a z =>
    simp only [Addr.bitLen] at hlen hval hand ⊢
    simp only [IP.mask, Addr.as16, hlen, length_bytesBE]
    simp [beVal_zipWith rfl (· &&& ·) (fun _ _ => BitVec.toNat_and _ _), hlen, beVal_bytesBE,
      Addr.addr, Nat.mod_eq_of_lt a.isLt, hval]
    exact hand

theorem orNotMask_eq : ∀ {ip mask : List Byte}, ip.length = mask.length →
    orNotMask ip mask = some (List.zipWith (· ||| ·) ip (mask.map (~~~·)))
  | [], [], _ => rfl
  | b :: bs, m :: ms, h => by
    rw [orNotMask, orNotMask_eq (Nat.succ.inj h)]
    rfl

/-- Setting the bits the mask clears turns the network into the last address of the range. -/
theorem beVal_broadcast {net mask : List Byte} (h : net.length = mask.length) {L n q : Nat}
    (hlen : 8 * net.length = L) (hn : n ≤ L) (hnet : beVal net = 2 ^ (L - n) * q)
    (hmask : beVal mask = 2 ^ (L - n) * (2 ^ n - 1)) :
    beVal (List.zipWith (· ||| ·) net (mask.map (~~~·))) = 2 ^ (L - n) * q + (2 ^ (L - n) - 1) := by
  have hnot := beVal_map_not mask
  have hfull : 2 ^ (L - n) * (2 ^ n - 1) + 2 ^ (L - n) = 2 ^ L := by
    rw [Nat.mul_sub_one, Nat.sub_add_cancel (Nat.le_mul_of_pos_right _ (Nat.two_pow_pos n)),
      ← Nat.pow_add, Nat.sub_add_cancel hn]
  have hcompl : beVal (mask.map (~~~·)) = 2 ^ (L - n) - 1 := by
    rw [← h, hlen, hmask] at hnot; omega
  rw [beVal_zipWith rfl (· ||| ·) (fun _ _ => BitVec.toNat_or _ _) (by simp [h]), hnet, hcompl]
  exact (Nat.mul_add_lt_is_or (Nat.sub_lt (Nat.two_pow_pos _) Nat.one_pos) q).symm

/-! ## Parsing a CIDR -/

theorem parseCIDR_eq_ok {parseAddr : AddrParser} {s : String} {ip : IP} {ipNet : IPNet}
    (h : parseCIDR parseAddr s = .ok (ip, ipNet)) :
    ∃ ipAddr n, parseAddr.parse ((s.splitOn "/").headD "") = some ipAddr ∧ ipAddr.zone = "" ∧
      n ≤ ipAddr.bitLen ∧ ip = ipAddr.as16 ∧
      ipNet = ⟨IP.mask ipAddr.as16 (cidrMask n ipAddr.bitLen), cidrMask n ipAddr.bitLen⟩ := by
  unfold parseCIDR at h
  split at h
  · cases h
  · cases h
  rename_i addr rest _ hs
  dsimp only at h
  split at h
  · cases h
  rename_i ipAddr hp
  split at h
  · cases h
  rename_i hz
  split at h
  · cases h
  rename_i hok
  cases h
  simp only [not_or, not_lt] at hok
  exact ⟨ipAddr, _, by rw [hs]; exact hp, not_not.mp hz, hok.2.2, rfl, rfl⟩

theorem bitLen_of_ne_zero {a : Addr} (h : a ≠ .zero) : a.bitLen = 32 ∨ a.bitLen = 128 := by
  cases a
  · exact absurd rfl h
  · exact .inl rfl
  · exact .inr rfl

/-- A 4 or 16 byte slice converts to an address of as many bits, with no zone. -/
theorem addrFromSlice_spec {bs : List Byte} (h : bs.length = 4 ∨ bs.length = 16) :
    ∃ a, addrFromSlice bs = some a ∧ a.bitLen = 8 * bs.length ∧ a.zone = "" ∧ a.bits = beVal bs := by
  have hlt := beVal_lt bs
  rcases h with h | h <;> rw [h] at hlt
  · exact ⟨.v4 (BitVec.ofNat 32 (beVal bs)), by simp [addrFromSlice, h], by simp [Addr.bitLen, h],
      rfl, (BitVec.toNat_ofNat _ _).trans (Nat.mod_eq_of_lt hlt)⟩
  · exact ⟨.v6 (BitVec.ofNat 128 (beVal bs)) "", by simp [addrFromSlice, h],
      by simp [Addr.bitLen, h], rfl, (BitVec.toNat_ofNat _ _).trans (Nat.mod_eq_of_lt hlt)⟩

/-! ## Comparing addresses -/

theorem compare_of_bitLen_lt {a b : Addr} (h : a.bitLen < b.bitLen) : a.compare b = -1 := by
  simp [Addr.compare, h]

theorem compare_of_bitLen_gt {a b : Addr} (h : b.bitLen < a.bitLen) : a.compare b = 1 := by
  simp [Addr.compare, h, Nat.not_lt.mpr h.le]

/-- Comparing the high and then the low 64 bits of two numbers is comparing the numbers. -/
theorem hiLo_compare_eq (X Y : Nat) :
    (if X / 2 ^ 64 < Y / 2 ^ 64 then (-1 : Int) else if Y / 2 ^ 64 < X / 2 ^ 64 then 1
      else if X % 2 ^ 64 < Y % 2 ^ 64 then -1 else if Y % 2 ^ 64 < X % 2 ^ 64 then 1 else 0) =
    if X < Y then -1 else if Y < X then 1 else 0 := by
  have hX := Nat.div_add_mod X (2 ^ 64); have hY := Nat.div_add_mod Y (2 ^ 64)
  have := Nat.mod_lt X (Nat.two_pow_pos 64); have := Nat.mod_lt Y (Nat.two_pow_pos 64)
  generalize X / 2 ^ 64 = h₁, Y / 2 ^ 64 = h₂, X % 2 ^ 64 = l₁, Y % 2 ^ 64 = l₂ at *
  subst hX hY
  split_ifs <;> omega

/-- Between two addresses of one family with no zone, `Compare` is the three-way comparison
of their values. -/
theorem compare_eq_of_family {a b : Addr} (hab : a.bitLen = b.bitLen) (ha : a.zone = "")
    (hb : b.zone = "") :
    a.compare b = if a.bits < b.bits then -1 else if b.bits < a.bits then 1 else 0 := by
  cases a with
  | zero => cases b <;> simp_all [Addr.bitLen, Addr.compare, Addr.bits]
  | v4 x =>
    cases b with
    | v4 y =>
      simp only [Addr.compare, Addr.bitLen, Addr.is6, Bool.false_eq_true, if_false, gt_iff_lt,
        lt_self_iff_false, hiLo_compare_eq, Addr.addr, Addr.bits, Nat.add_lt_add_iff_left]
    | _ => simp [Addr.bitLen] at hab
  | v6 x z =>
    cases b with
    | v6 y z' =>
      simp only [Addr.zone] at ha hb
      subst ha hb
      simp only [Addr.compare, Addr.bitLen, Addr.is6, Addr.zone, String.lt_irrefl, if_false,
        if_true, gt_iff_lt, lt_self_iff_false, hiLo_compare_eq, Addr.addr, Addr.bits]
    | _ => simp [Addr.bitLen] at hab

/-- Between two addresses of one family with no zone, `Compare` orders by value. -/
theorem compare_le_zero_iff {a b : Addr} (hab : a.bitLen = b.bitLen) (ha : a.zone = "")
    (hb : b.zone = "") : a.compare b ≤ 0 ↔ a.bits ≤ b.bits := by
  rw [compare_eq_of_family hab ha hb]
  split_ifs <;> omega

/-- **The inclusive test against the ends of a range.** Between the first and the last
address of a block of `2 ^ h` addresses lie exactly the addresses of the same family in the
block. -/
theorem inRange_iff {net bc a : Addr} {h q : Nat} (hbits : net.bitLen = bc.bitLen)
    (hz : net.zone = "") (hz' : bc.zone = "") (hnet : net.bits = 2 ^ h * q)
    (hbc : bc.bits = 2 ^ h * q + (2 ^ h - 1)) (ha : a.zone = "") :
    (net.compare a ≤ 0 ∧ a.compare bc ≤ 0) ↔
      a.bitLen = net.bitLen ∧ a.bits / 2 ^ h = net.bits / 2 ^ h := by
  rcases Nat.lt_trichotomy a.bitLen net.bitLen with hl | hl | hl
  · simp [compare_of_bitLen_gt hl, hl.ne]
  · rw [compare_le_zero_iff hl.symm hz ha, compare_le_zero_iff (hl.trans hbits) ha hz', hnet, hbc,
      Nat.mul_div_cancel_left _ (Nat.two_pow_pos h)]
    have hP := Nat.two_pow_pos h
    have hlo := Nat.div_mul_le_self a.bits (2 ^ h)
    have hhi := Nat.lt_div_mul_add (a := a.bits) hP
    constructor
    · rintro ⟨h₁, h₂⟩
      refine ⟨hl, Nat.le_antisymm ?_ ((Nat.le_div_iff_mul_le hP).mpr (by rw [Nat.mul_comm]; exact h₁))⟩
      exact Nat.lt_succ_iff.mp ((Nat.div_lt_iff_lt_mul hP).mpr (by rw [Nat.succ_mul, Nat.mul_comm]; omega))
    · rintro ⟨-, hq⟩
      rw [← hq, Nat.mul_comm]
      omega
  · simp [compare_of_bitLen_gt (hbits ▸ hl : bc.bitLen < a.bitLen), hl.ne']

/-! ## `LoadCIDR` -/

/-- From a CIDR that parses, `LoadCIDR` computes the first and the last address of the block
of `2 ^ (L - n)` addresses the CIDR's address lies in. -/
theorem loadCIDR_of_parseCIDR {parseAddr : AddrParser} {c : String} {ip : IP} {ipNet : IPNet}
    (h : parseCIDR parseAddr c = .ok (ip, ipNet)) :
    ∃ ipAddr n, parseAddr.parse ((c.splitOn "/").headD "") = some ipAddr ∧
      (ipAddr.bitLen = 32 ∨ ipAddr.bitLen = 128) ∧ n ≤ ipAddr.bitLen ∧
      ipNet.mask = cidrMask n ipAddr.bitLen ∧ 8 * ipNet.ip.length = ipAddr.bitLen ∧
      ipNet.mask.length = ipNet.ip.length ∧
      ∃ net bc, loadCIDR parseAddr c = some (.ok (ipNet, net, bc)) ∧
        net.bitLen = ipAddr.bitLen ∧ bc.bitLen = ipAddr.bitLen ∧ net.zone = "" ∧ bc.zone = "" ∧
        net.bits = 2 ^ (ipAddr.bitLen - n) * (ipAddr.bits / 2 ^ (ipAddr.bitLen - n)) ∧
        bc.bits = 2 ^ (ipAddr.bitLen - n) * (ipAddr.bits / 2 ^ (ipAddr.bitLen - n)) +
          (2 ^ (ipAddr.bitLen - n) - 1) := by
  obtain ⟨ipAddr, n, hp, -, hn, -, rfl⟩ := parseCIDR_eq_ok h
  dsimp only
  have hL := bitLen_of_ne_zero (parseAddr.ne_zero _ _ hp)
  obtain ⟨hlenN, hvalN⟩ := mask_as16 hL hn
  obtain ⟨hlenM, hvalM⟩ := cidrMask_spec hL hn
  have hlen : (IP.mask ipAddr.as16 (cidrMask n ipAddr.bitLen)).length =
      (cidrMask n ipAddr.bitLen).length := by rw [hlenM]; omega
  have h416 : (IP.mask ipAddr.as16 (cidrMask n ipAddr.bitLen)).length = 4 ∨
      (IP.mask ipAddr.as16 (cidrMask n ipAddr.bitLen)).length = 16 := by omega
  obtain ⟨net, hnet, hnetL, hnetz, hnetv⟩ := addrFromSlice_spec h416
  obtain ⟨bc, hbc, hbcL, hbcz, hbcv⟩ := @addrFromSlice_spec
    (List.zipWith (· ||| ·) (IP.mask ipAddr.as16 (cidrMask n ipAddr.bitLen))
      ((cidrMask n ipAddr.bitLen).map (~~~·))) (by simpa [hlen] using h416)
  refine ⟨ipAddr, n, hp, hL, hn, rfl, hlenN, hlen.symm, net, bc, ?_, by rw [hnetL, hlenN],
    by rw [hbcL]; simpa [hlen] using hlenN, hnetz, hbcz, hnetv.trans hvalN,
    hbcv.trans (beVal_broadcast hlen hlenN hn hvalN hvalM)⟩
  simp only [loadCIDR, h, hnet, orNotMask_eq hlen, Option.map_some', hbc]

/-- `LoadCIDR` never panics, and fails exactly when `ParseCIDR` does. -/
theorem loadCIDR_ok_or_error (parseAddr : AddrParser) (c : String) :
    (∃ e, parseCIDR parseAddr c = .error e ∧ loadCIDR parseAddr c = some (.error (.parseCIDR e))) ∨
    ∃ ip ipNet net bc, parseCIDR parseAddr c = .ok (ip, ipNet) ∧
      loadCIDR parseAddr c = some (.ok (ipNet, net, bc)) := by
  rcases hp : parseCIDR parseAddr c with e | ⟨ip, ipNet⟩
  · exact .inl ⟨e, rfl, by simp [loadCIDR, hp]⟩
  · obtain ⟨-, -, -, -, -, -, -, -, net, bc, hl, -⟩ := loadCIDR_of_parseCIDR hp
    exact .inr ⟨ip, ipNet, net, bc, rfl, hl⟩

/-- **`LoadCIDR` fails exactly when `ParseCIDR` does, never panics, and its two addresses
bound the CIDR's block.** An address with no zone passes the inclusive test against the
network and broadcast addresses iff it has the CIDR's bit length `L` and agrees with the
network address on the first `n` bits. -/
theorem loadCIDR_spec (parseAddr : AddrParser) (c : String) :
    (∃ r, loadCIDR parseAddr c = some r) ∧
    ((∃ e, loadCIDR parseAddr c = some (.error e)) ↔ ∃ e, parseCIDR parseAddr c = .error e) ∧
    ∀ ip ipNet, parseCIDR parseAddr c = .ok (ip, ipNet) →
      ∃ ipAddr n, parseAddr.parse ((c.splitOn "/").headD "") = some ipAddr ∧
        (ipAddr.bitLen = 32 ∨ ipAddr.bitLen = 128) ∧ n ≤ ipAddr.bitLen ∧
        ipNet.mask = cidrMask n ipAddr.bitLen ∧ 8 * ipNet.ip.length = ipAddr.bitLen ∧
        ipNet.mask.length = ipNet.ip.length ∧
        ∃ net bc, loadCIDR parseAddr c = some (.ok (ipNet, net, bc)) ∧
          net.bitLen = ipAddr.bitLen ∧ bc.bitLen = ipAddr.bitLen ∧
          ∀ a : Addr, a.zone = "" →
            ((net.compare a ≤ 0 ∧ a.compare bc ≤ 0) ↔
              a.bitLen = ipAddr.bitLen ∧
                a.bits / 2 ^ (ipAddr.bitLen - n) = net.bits / 2 ^ (ipAddr.bitLen - n)) := by
  refine ⟨?_, ?_, fun ip ipNet h => ?_⟩
  · rcases loadCIDR_ok_or_error parseAddr c with ⟨e, -, hl⟩ | ⟨_, _, net, bc, -, hl⟩ <;> exact ⟨_, hl⟩
  · rcases loadCIDR_ok_or_error parseAddr c with ⟨e, hp, hl⟩ | ⟨ip, ipNet, net, bc, hp, hl⟩ <;>
      simp [hp, hl]
  · obtain ⟨ipAddr, n, hp, hL, hn, hm, hlen, hml, net, bc, hl, hnetL, hbcL, hnetz, hbcz, hnetv,
      hbcv⟩ := loadCIDR_of_parseCIDR h
    refine ⟨ipAddr, n, hp, hL, hn, hm, hlen, hml, net, bc, hl, hnetL, hbcL, fun a ha => ?_⟩
    rw [inRange_iff (hnetL.trans hbcL.symm) hnetz hbcz hnetv hbcv ha, hnetL]

/-! ## `LoadPool` -/

/-- One of the pool's optional addresses: an empty field gives the zero `Addr`, and a set
field the address it spells, which is never the zero `Addr`. -/
theorem loadPoolAddr_ok {parseAddr : AddrParser} {s : String} {a : Addr}
    (h : loadPoolAddr parseAddr s = .ok a) :
    (a = .zero ↔ s = "") ∧ (s ≠ "" → parseAddr.parse s = some a) := by
  unfold loadPoolAddr at h
  split at h
  · rename_i hs
    split at h
    · cases h
    · rename_i a' hp
      cases h
      exact ⟨iff_of_false (parseAddr.ne_zero _ _ hp) hs, fun _ => hp⟩
  · rename_i hs
    cases h
    exact ⟨iff_of_true rfl (not_not.mp hs), fun h' => absurd (not_not.mp hs) h'⟩

/-- An address field loads unless it is set and does not parse. -/
theorem loadPoolAddr_ok_iff (parseAddr : AddrParser) (s : String) :
    (∃ a, loadPoolAddr parseAddr s = .ok a) ↔ (s ≠ "" → ∃ a, parseAddr.parse s = some a) := by
  unfold loadPoolAddr
  by_cases hs : s = "" <;> simp only [hs, ne_eq, not_true, not_false_eq_true, if_true, if_false]
  · simp
  · rcases parseAddr.parse s with _ | a <;> simp

/-- `LoadPool` succeeds when `LoadCIDR` does and each of the four address fields loads, and
then returns what they return. -/
theorem loadPool_ok_iff {parseAddr : AddrParser} {p : IPPool} {pi : PoolInfo} :
    loadPool parseAddr p = some (.ok pi) ↔
      loadCIDR parseAddr p.cidr = some (.ok (pi.ipNet, pi.networkIPAddr, pi.broadcastIPAddr)) ∧
      loadPoolAddr parseAddr p.poolStart = .ok pi.startIPAddr ∧
      loadPoolAddr parseAddr p.poolEnd = .ok pi.endIPAddr ∧
      loadPoolAddr parseAddr p.serverIP = .ok pi.serverIPAddr ∧
      loadPoolAddr parseAddr p.router = .ok pi.routerIPAddr := by
  rcases hc : loadCIDR parseAddr p.cidr with _ | _ | ⟨ipNet, n, b⟩
  · simp [loadPool, hc]
  · simp [loadPool, hc, Except.mapError, bind, Except.bind]
  · simp only [loadPool, hc, Except.mapError, bind, Except.bind, Option.map_some', Option.some.injEq,
      Except.ok.injEq, Prod.mk.injEq]
    cases pi
    cases loadPoolAddr parseAddr p.poolStart <;> cases loadPoolAddr parseAddr p.poolEnd <;>
      cases loadPoolAddr parseAddr p.serverIP <;> cases loadPoolAddr parseAddr p.router <;>
      simp [pure, Except.pure, and_assoc]

/-- **`LoadPool` never panics, and succeeds exactly when the CIDR parses and each address field
is empty or parses.** Its network and broadcast addresses are then `LoadCIDR`'s, and each of
its four other addresses is the zero `Addr` exactly when its field is empty, and otherwise the
address the field spells. -/
theorem loadPool_spec (parseAddr : AddrParser) (p : IPPool) :
    (∃ r, loadPool parseAddr p = some r) ∧
    ((∃ pi, loadPool parseAddr p = some (.ok pi)) ↔
      (∃ ip ipNet, parseCIDR parseAddr p.cidr = .ok (ip, ipNet)) ∧
      ∀ s ∈ [p.poolStart, p.poolEnd, p.serverIP, p.router], s ≠ "" → ∃ a, parseAddr.parse s = some a) ∧
    ∀ pi, loadPool parseAddr p = some (.ok pi) →
      loadCIDR parseAddr p.cidr = some (.ok (pi.ipNet, pi.networkIPAddr, pi.broadcastIPAddr)) ∧
      List.Forall₂ (fun s a => (a = .zero ↔ s = "") ∧ (s ≠ "" → parseAddr.parse s = some a))
        [p.poolStart, p.poolEnd, p.serverIP, p.router]
        [pi.startIPAddr, pi.endIPAddr, pi.serverIPAddr, pi.routerIPAddr] := by
  have hfields := fun s => loadPoolAddr_ok_iff parseAddr s
  refine ⟨?_, ⟨fun ⟨pi, h⟩ => ?_, fun ⟨⟨ip, ipNet, hp⟩, hs⟩ => ?_⟩, fun pi h => ?_⟩
  · rcases loadCIDR_ok_or_error parseAddr p.cidr with ⟨e, -, hl⟩ | ⟨_, _, net, bc, -, hl⟩ <;>
      simp [loadPool, hl]
  · obtain ⟨hl, h₁, h₂, h₃, h₄⟩ := loadPool_ok_iff.mp h
    refine ⟨?_, by simpa [← hfields] using ⟨⟨_, h₁⟩, ⟨_, h₂⟩, ⟨_, h₃⟩, ⟨_, h₄⟩⟩⟩
    rcases loadCIDR_ok_or_error parseAddr p.cidr with ⟨e, -, hl'⟩ | ⟨ip, ipNet, -, -, hp, -⟩
    · rw [hl] at hl'; cases hl'
    · exact ⟨ip, ipNet, hp⟩
  · simp only [List.mem_cons, List.mem_singleton, List.not_mem_nil, or_false, forall_eq_or_imp,
      forall_eq, ← hfields] at hs
    obtain ⟨⟨a₁, h₁⟩, ⟨a₂, h₂⟩, ⟨a₃, h₃⟩, ⟨a₄, h₄⟩⟩ := hs
    obtain ⟨e, hp', -⟩ | ⟨-, ipNet', net, bc, -, hl⟩ := loadCIDR_ok_or_error parseAddr p.cidr
    · rw [hp] at hp'; cases hp'
    · exact ⟨⟨ipNet', net, bc, a₁, a₂, a₃, a₄⟩, loadPool_ok_iff.mpr ⟨hl, h₁, h₂, h₃, h₄⟩⟩
  · obtain ⟨hl, h₁, h₂, h₃, h₄⟩ := loadPool_ok_iff.mp h
    exact ⟨hl, .cons (loadPoolAddr_ok h₁) <| .cons (loadPoolAddr_ok h₂) <|
      .cons (loadPoolAddr_ok h₃) <| .cons (loadPoolAddr_ok h₄) .nil⟩

/-! ## The test of `IsIPInBetweenOf` -/

/-- **`IsIPInBetweenOf` is the inclusive test of the address order.** For three strings that
parse to addresses with no zone, the bounds of one family, it holds exactly when the address
is of that family and its value lies between theirs, both ends included. -/
theorem isIPInBetweenOf_iff (parseAddr : AddrParser) {ip ip1 ip2 : String} {a a1 a2 : Addr}
    (h : parseAddr.parse ip = some a) (h1 : parseAddr.parse ip1 = some a1)
    (h2 : parseAddr.parse ip2 = some a2) (hz : a.zone = "") (hz1 : a1.zone = "")
    (hz2 : a2.zone = "") (hfam : a1.bitLen = a2.bitLen) :
    isIPInBetweenOf parseAddr ip ip1 ip2 = true ↔
      a.bitLen = a1.bitLen ∧ a1.bits ≤ a.bits ∧ a.bits ≤ a2.bits := by
  simp only [isIPInBetweenOf, h, h1, h2, Bool.and_eq_true, decide_eq_true_eq]
  rcases Nat.lt_trichotomy a.bitLen a1.bitLen with hl | hl | hl
  · simp [compare_of_bitLen_lt hl, hl.ne]
  · rw [compare_eq_of_family hl hz hz1, compare_eq_of_family (hl.trans hfam) hz hz2]
    simp only [hl, true_and]
    split_ifs <;> omega
  · rw [hfam] at hl
    simp [compare_of_bitLen_gt hl, (hfam ▸ hl).ne']

/-- A parser that reads a string as the IPv4 address of its length. -/
def lengthParser : AddrParser :=
  ⟨fun s => some (.v4 (BitVec.ofNat 32 s.length)), fun _ _ h => by cases h; simp⟩

theorem isIPInBetweenOf_iff_lengths :
    lengthParser.parse "aaa" = some (.v4 3) ∧ lengthParser.parse "a" = some (.v4 1) ∧
      lengthParser.parse "aaaaa" = some (.v4 5) ∧
      (isIPInBetweenOf lengthParser "aaa" "a" "aaaaa" = true ↔
        (Addr.v4 3).bitLen = (Addr.v4 1).bitLen ∧ (Addr.v4 1).bits ≤ (Addr.v4 3).bits ∧
          (Addr.v4 3).bits ≤ (Addr.v4 5).bits) :=
  ⟨rfl, rfl, rfl, isIPInBetweenOf_iff lengthParser rfl rfl rfl rfl rfl rfl rfl⟩

end VmDhcpController
