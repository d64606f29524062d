import Stockroom.Codec.Base64

/-!
Base 64 undone. The characters of encoded bytes stand for groups of six bits, and these are put
together again.

Main definitions and statements: `sextets`, `encode_eq_sextets`, `decode_encode`.
-/
namespace Stockroom.Base64
set_option autoImplicit false

/-- The groups of six bits of some bytes. -/
def sextets : List UInt8 → List Nat
  | [] => []
  | [x] => [x.toNat / 4, x.toNat % 4 * 16]
  | [x, y] => [x.toNat / 4, x.toNat % 4 * 16 + y.toNat / 16, y.toNat % 16 * 4]
  | x :: y :: z :: rest =>
    x.toNat / 4 :: (x.toNat % 4 * 16 + y.toNat / 16) :: (y.toNat % 16 * 4 + z.toNat / 64) ::
      (z.toNat % 64) :: sextets rest

theorem encode_eq_sextets (a : Alphabet) (bs : List UInt8) :
    encode a bs = (sextets bs).map a.char := by
  fun_induction sextets bs with
  | case1 | case2 | case3 => rfl
  | case4 x y z rest ih => simp only [encode, ih, List.map_cons]

theorem sextets_lt (bs : List UInt8) : ∀ n ∈ sextets bs, n < 64 := by
  fun_induction sextets bs with
  | case1 => simp
  | case2 x =>
    have hx := x.toNat_lt
    simp only [List.mem_cons, List.not_mem_nil, or_false]
    rintro n (rfl | rfl) <;> omega
  | case3 x y =>
    have hx := x.toNat_lt
    have hy := y.toNat_lt
    simp only [List.mem_cons, List.not_mem_nil, or_false]
    rintro n (rfl | rfl | rfl) <;> omega
  | case4 x y z rest ih =>
    have hx := x.toNat_lt
    have hy := y.toNat_lt
    simp only [List.mem_cons]
    rintro n (rfl | rfl | rfl | rfl | hn)
    · omega
    · omega
    · have hz := z.toNat_lt
      omega
    · omega
    · exact ih n hn

theorem ofNat_eq {x : UInt8} {n : Nat} (h : n = x.toNat) : UInt8.ofNat n = x := by
  rw [h, UInt8.ofNat_toNat]

theorem bytesOf_sextets (bs : List UInt8) : bytesOf (sextets bs) = some bs := by
  fun_induction sextets bs with
  | case1 => rfl
  | case2 x =>
    rw [bytesOf, ofNat_eq (x := x) (by omega)]
  | case3 x y =>
    rw [bytesOf, ofNat_eq (x := x) (by have := y.toNat_lt; omega),
      ofNat_eq (x := y) (by have := y.toNat_lt; omega)]
  | case4 x y z rest ih =>
    have hy := y.toNat_lt
    have hz := z.toNat_lt
    rw [bytesOf, ih, ofNat_eq (x := x) (by omega), ofNat_eq (x := y) (by omega),
      ofNat_eq (x := z) (by omega)]
    rfl

/-! ## The alphabet of addresses -/

theorem value_char : ∀ n < 64, urlSafe.value (urlSafe.char n) = some n := by decide

theorem char_kept : ∀ n < 64, urlSafe.char n ≠ '\n' ∧ urlSafe.char n ≠ '\r' := by decide

theorem mapM_value {ns : List Nat} (h : ∀ n ∈ ns, n < 64) :
    (ns.map urlSafe.char).mapM urlSafe.value = some ns := by
  induction ns with
  | nil => rfl
  | cons n ns ih =>
    obtain ⟨hn, hns⟩ := List.forall_mem_cons.mp h
    rw [List.map_cons, List.mapM_cons, value_char n hn, ih hns]
    rfl

/-- Encoded bytes are decoded. -/
theorem decode_encode (bs : List UInt8) : decode urlSafe (encode urlSafe bs) = some bs := by
  have hkept : (encode urlSafe bs).filter (fun c => c != '\n' && c != '\r') =
      encode urlSafe bs := by
    rw [List.filter_eq_self, encode_eq_sextets]
    intro c hc
    obtain ⟨n, hn, rfl⟩ := List.mem_map.mp hc
    simpa using char_kept n (sextets_lt bs n hn)
  rw [decode, hkept, encode_eq_sextets, mapM_value (sextets_lt bs), Option.bind_some,
    bytesOf_sextets]

end Stockroom.Base64
