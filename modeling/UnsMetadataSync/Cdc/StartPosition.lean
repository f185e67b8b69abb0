import UnsMetadataSync.JsonScanner
import UnsMetadataSync.PathNormalizer
import Mathlib.Data.Int.Bitwise

/-!
# The start position of a replication stream

`create_pgoutput_stream_factory` (`cdc/service.py`) builds the stream factory the listener's
replication client calls with its checkpoint's LSN.  When the LSN is set and not zero, the factory
writes it with `int_to_lsn` as the position of `START_REPLICATION`: `value >> 32` and
`value & 0xFFFFFFFF` in upper-case hexadecimal, joined by `/`.

PostgreSQL reads such a text as a `pg_lsn`: one to eight hexadecimal digits on each side of the
`/`, the upper 32 bits and the lower ones (`pgLsnValue`, after `pg_lsn_in`; it is not code of this
repository).  For every LSN below `2 ^ 64`, the text `int_to_lsn` writes is one PostgreSQL
accepts, and it names that LSN; a position is sent exactly when the LSN is set and not zero
(`startPosition_reads_back`).

The connection, the replication options and the loop over the server's messages are left out.
-/

namespace UnsMetadataSync.Cdc.StartPosition

open JsonScanner PathNormalizer

/-- `f"{n:X}"`: a minus sign for a negative number, then the magnitude in upper-case
hexadecimal. -/
def upperHex (n : Int) : List Char :=
  (if n < 0 then ['-'] else []) ++ (Nat.toDigits 16 n.natAbs).map Char.toUpper

/-- `int_to_lsn`. -/
def intToLsn (value : Int) : String :=
  let upper := value >>> (32 : Nat)
  let lower := Int.land value 0xFFFFFFFF
  String.mk (upperHex upper ++ '/' :: upperHex lower)

/-- `start_pos` of the factory: `int_to_lsn(start_lsn) if start_lsn else None`. -/
def startPosition (startLsn : Option Int) : Option String :=
  match startLsn with
  | some lsn => if lsn ≠ 0 then some (intToLsn lsn) else none
  | none => none

/-- The value `pg_lsn` input gives a text: one to eight hexadecimal digits, `/`, and one to eight
more, read as the upper and lower 32 bits; `none` for a text it rejects. -/
def pgLsnValue (s : String) : Option Nat :=
  match s.data.splitOn '/' with
  | [upper, lower] =>
    if upper ≠ [] ∧ upper.length ≤ 8 ∧ lower ≠ [] ∧ lower.length ≤ 8 then
      (hexDigitsValue upper).bind fun hi ↦ (hexDigitsValue lower).map (hi * 2 ^ 32 + ·)
    else none
  | _ => none

/-! ## The hexadecimal fields -/

theorem hexValue_toUpper : ∀ d < 16,
    hexValue (Nat.digitChar d).toUpper = some d ∧ (Nat.digitChar d).toUpper ≠ '/' := by
  decide

/-- Upper-case digits read with their values one by one. -/
theorem foldlM_map_toUpper {digits : List Char} (hall : ∀ c ∈ digits, ∃ d < 16, c = Nat.digitChar d)
    (acc : Nat) :
    (digits.map Char.toUpper).foldlM (fun acc c ↦ (hexValue c).map (16 * acc + ·)) acc =
      some (digits.foldl (fun acc c ↦ 16 * acc + (hexValue c).getD 0) acc) := by
  induction digits generalizing acc with
  | nil => rfl
  | cons c digits ih =>
    obtain ⟨d, hd, rfl⟩ := hall c (List.mem_cons_self _ _)
    simp only [List.map_cons, List.foldlM_cons, List.foldl_cons, (hexValue_toUpper d hd).1,
      hexValue_digitChar d hd, Option.map_some', Option.getD_some, Option.bind_eq_bind, Option.some_bind]
    exact ih (fun c hc ↦ hall c (List.mem_cons_of_mem _ hc)) _

/-- The upper-case hexadecimal digits of `n`: there is one at least, none is `/`, they read back
as `n`, and below `2 ^ 32` there are at most eight. -/
theorem upperDigits_spec (n : Nat) :
    (Nat.toDigits 16 n).map Char.toUpper ≠ [] ∧ '/' ∉ (Nat.toDigits 16 n).map Char.toUpper ∧
      hexDigitsValue ((Nat.toDigits 16 n).map Char.toUpper) = some n ∧
      (n < 2 ^ 32 → ((Nat.toDigits 16 n).map Char.toUpper).length ≤ 8) := by
  obtain ⟨digits, hdigits, hne, hall, hvalue, -⟩ :=
    toDigitsCore_spec (by decide : 1 < 16) (fun c ↦ (hexValue c).getD 0)
      (fun d hd ↦ by simp [hexValue_digitChar d hd]) (n + 1) n [] (Nat.lt_succ_self n)
  rw [List.append_nil] at hdigits
  refine ⟨?_, fun h ↦ ?_, ?_, fun hn ↦ ?_⟩
  · rw [Nat.toDigits, hdigits]
    exact fun h ↦ hne (List.map_eq_nil_iff.1 h)
  · rw [Nat.toDigits, hdigits, List.mem_map] at h
    obtain ⟨c, hc, hslash⟩ := h
    obtain ⟨d, hd, rfl⟩ := hall c hc
    exact (hexValue_toUpper d hd).2 hslash
  · rw [Nat.toDigits, hdigits, hexDigitsValue, foldlM_map_toUpper hall, hvalue]
  · rw [List.length_map]
    exact Nat.toDigitsCore_length 16 (by decide) (n + 1) n 8 (by simpa using hn) (by decide)

/-- The fields of a non-negative number: `value >> 32` and `value & 0xFFFFFFFF` are its quotient
and remainder by `2 ^ 32`, written without a sign. -/
theorem intToLsn_of_nat (v : Nat) :
    (intToLsn v).data = (Nat.toDigits 16 (v / 2 ^ 32)).map Char.toUpper ++
      '/' :: (Nat.toDigits 16 (v % 2 ^ 32)).map Char.toUpper := by
  have hupper : (v : Int) >>> (32 : Nat) = ((v / 2 ^ 32 : Nat) : Int) := by
    rw [Int.natCast_shiftRight, Nat.shiftRight_eq_div_pow]
  have hlower : Int.land (v : Int) 0xFFFFFFFF = ((v % 2 ^ 32 : Nat) : Int) := by
    show ((v &&& (2 ^ 32 - 1) : Nat) : Int) = _
    rw [Nat.and_pow_two_sub_one_eq_mod]
  simp only [intToLsn, hupper, hlower, upperHex, Int.natAbs_ofNat, Int.natCast_nonneg, not_lt.2,
    if_false, List.nil_append]

/-! ## The position the stream resumes from -/

/-- Every LSN below `2 ^ 64` is written as a `pg_lsn` that names it. -/
theorem pgLsnValue_intToLsn {v : Nat} (hv : v < 2 ^ 64) : pgLsnValue (intToLsn v) = some v := by
  obtain ⟨hne₁, hslash₁, hval₁, hlen₁⟩ := upperDigits_spec (v / 2 ^ 32)
  obtain ⟨hne₂, hslash₂, hval₂, hlen₂⟩ := upperDigits_spec (v % 2 ^ 32)
  have hsplit : ((Nat.toDigits 16 (v / 2 ^ 32)).map Char.toUpper ++
      '/' :: (Nat.toDigits 16 (v % 2 ^ 32)).map Char.toUpper).splitOn '/' =
      [(Nat.toDigits 16 (v / 2 ^ 32)).map Char.toUpper, (Nat.toDigits 16 (v % 2 ^ 32)).map Char.toUpper] := by
    rw [splitOn_append_cons, List.splitOn, List.splitOn,
      List.splitOnP_eq_single _ _ fun c hc h ↦ hslash₁ (by rwa [← beq_iff_eq.1 h]),
      List.splitOnP_eq_single _ _ fun c hc h ↦ hslash₂ (by rwa [← beq_iff_eq.1 h])]
    rfl
  rw [pgLsnValue, intToLsn_of_nat, hsplit]
  dsimp only
  rw [if_pos ⟨hne₁, hlen₁ (by omega), hne₂, hlen₂ (Nat.mod_lt _ (by norm_num))⟩, hval₁, hval₂]
  simp only [Option.some_bind, Option.map_some', Nat.div_add_mod']

/-- For every checkpoint LSN below `2 ^ 64`, the factory sends a start position exactly when the
LSN is set and not zero, and PostgreSQL reads that position as the LSN itself. -/
theorem startPosition_reads_back (startLsn : Option Int) (h : ∀ l ∈ startLsn, 0 ≤ l ∧ l < 2 ^ 64) :
    (startPosition startLsn).isSome = (startLsn.filter (· != 0)).isSome ∧
      (startPosition startLsn).bind pgLsnValue = (startLsn.filter (· != 0)).map Int.toNat := by
  cases startLsn with
  | none => exact ⟨rfl, rfl⟩
  | some l =>
    obtain ⟨hl0, hl⟩ := h l rfl
    by_cases hz : l = 0
    · subst hz
      exact ⟨rfl, rfl⟩
    · obtain ⟨v, rfl⟩ := Int.eq_ofNat_of_zero_le hl0
      have hv : v < 2 ^ 64 := by exact_mod_cast hl
      have hs : startPosition (some (v : Int)) = some (intToLsn v) := if_pos hz
      have hf : (some (v : Int)).filter (· != 0) = some (v : Int) := by simp [Option.filter, hz]
      rw [hs, hf]
      exact ⟨rfl, by rw [Option.some_bind, pgLsnValue_intToLsn hv, Option.map_some', Int.toNat_ofNat]⟩

theorem startPosition_reads_back_16B3748 :
    startPosition (some 0x16B3748) = some "0/16B3748" ∧
      (startPosition (some 0x16B3748)).bind pgLsnValue = some 0x16B3748 :=
  ⟨by decide, (startPosition_reads_back (some 0x16B3748) fun l hl ↦ by
    cases hl
    decide).2⟩

end UnsMetadataSync.Cdc.StartPosition
