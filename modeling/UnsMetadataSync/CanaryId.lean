import Mathlib.Data.List.Basic
import Mathlib.Data.List.DropRight

/-!
# Canary tag identifiers

`canary_id.py` derives the Canary tag of a UNS path: the path is trimmed and split on `/`,
every segment is trimmed again and escaped character by character, and the escaped segments
are joined with `.`.  Python strings are lists of code points, `List Char` here.

The character classes behind `str.isalnum` and `str.isspace`, and the NFC normalisation the
path normaliser applies, are tables of the Unicode database.  They are the fields of
`UnicodeData`, so a statement over an arbitrary `UnicodeData` holds for Python's tables
whatever they contain.  The optional CRC32 checksum of `generate` is not modelled: no caller
in the repository asks for it.
-/

namespace UnsMetadataSync.CanaryId

/-- The Unicode tables consulted by the service: `str.isalnum`, `str.isspace`, NFC and the case
mappings of `str.lower` and `str.upper`.  The single fact kept about them is Python's
`'/'.isalnum() == False`. -/
structure UnicodeData where
  isAlnum : Char → Bool
  isSpace : Char → Bool
  nfc : List Char → List Char
  lower : List Char → List Char
  upper : List Char → List Char
  isAlnum_slash : isAlnum '/' = false

/-! ## Python string primitives -/

/-- `s.strip(chars)`: drop the leading and trailing characters that satisfy `p`. -/
def strip (p : Char → Bool) (s : List Char) : List Char :=
  (s.dropWhile p).rdropWhile p

/-- `[piece for piece in s.split(sep) if piece]`. -/
def splitNonEmpty (sep : Char) (s : List Char) : List (List Char) :=
  (s.splitOn sep).filter fun piece ↦ !piece.isEmpty

theorem strip_subset (p : Char → Bool) (s : List Char) : strip p s ⊆ s :=
  fun _ hc ↦ List.dropWhile_subset p ((List.rdropWhile_prefix p _).subset hc)

/-- A list whose first and last characters fail `p` is left alone by `strip p`. -/
theorem strip_eq_self {p : Char → Bool} {s : List Char} (hhead : ∀ c ∈ s.head?, p c = false)
    (hlast : ∀ c ∈ s.getLast?, p c = false) : strip p s = s := by
  have hdrop : s.dropWhile p = s := by
    cases s with
    | nil => rfl
    | cons c cs => exact List.dropWhile_cons_of_neg (by simpa using hhead c rfl)
  rw [strip, hdrop, List.rdropWhile_eq_self_iff]
  intro hs
  simpa using hlast _ (List.getLast?_eq_getLast s hs)

theorem strip_head {p : Char → Bool} {s : List Char} : ∀ c ∈ (strip p s).head?, p c = false := by
  intro c hc
  obtain ⟨t, ht⟩ := List.rdropWhile_prefix p (s.dropWhile p)
  have hne : s.dropWhile p ≠ [] := by
    rintro h
    simp [strip, h] at hc
  have hhead : (s.dropWhile p).head? = some c := by
    rw [← ht, List.head?_append, Option.or_of_isSome]
    · exact hc
    · simpa [Option.isSome_iff_exists] using ⟨c, hc⟩
  have := List.head_dropWhile_not p s hne
  rw [List.head?_eq_head hne, Option.some_inj] at hhead
  simpa [hhead] using this

theorem strip_last {p : Char → Bool} {s : List Char} :
    ∀ c ∈ (strip p s).getLast?, p c = false := by
  intro c hc
  have hne : strip p s ≠ [] := by rintro h; simp [h] at hc
  rw [List.getLast?_eq_getLast _ hne, Option.mem_def, Option.some_inj] at hc
  have := List.rdropWhile_last_not p _ hne
  simpa [← hc] using this

/-! ## Escaping -/

/-- `_is_allowed_char`: characters kept unescaped in a tag. -/
def isAllowedChar (u : UnicodeData) (c : Char) : Bool :=
  u.isAlnum c || c == ' ' || c == '.' || c == '_' || c == '-'

/-- `format(n, "04X")`: upper-case hexadecimal, zero-padded to at least four digits. -/
def hex04 (n : Nat) : List Char :=
  let digits := (Nat.toDigits 16 n).map Char.toUpper
  List.replicate (4 - digits.length) '0' ++ digits

/-- One character of `_escape_segment`: kept, a space for other whitespace, or `_xHHHH`. -/
def escapeChar (u : UnicodeData) (c : Char) : List Char :=
  if isAllowedChar u c then [c]
  else if u.isSpace c then [' ']
  else '_' :: 'x' :: hex04 c.toNat

/-- `_escape_segment`: the escaped segment and the number of characters replaced. -/
def escapeSegment (u : UnicodeData) (segment : List Char) : Except String (List Char × Nat) :=
  if segment.isEmpty then .error "uns_path contains a segment with only whitespace"
  else .ok (segment.flatMap (escapeChar u), (segment.filter fun c ↦ !isAllowedChar u c).length)

theorem escapeSegment_of_allowed {u : UnicodeData} {segment : List Char} (hne : segment ≠ [])
    (hallowed : ∀ c ∈ segment, isAllowedChar u c = true) :
    escapeSegment u segment = .ok (segment, 0) := by
  have hflat : segment.flatMap (escapeChar u) = segment := by
    rw [List.flatMap_congr (fun c hc ↦ by rw [escapeChar, if_pos (hallowed c hc)])]
    simp
  have hcount : segment.filter (fun c ↦ !isAllowedChar u c) = [] :=
    List.filter_eq_nil_iff.mpr fun c hc ↦ by simp [hallowed c hc]
  simp [escapeSegment, List.isEmpty_iff, hne, hflat, hcount]

/-! ## The generator -/

/-- The process-wide `CanaryIdGenerator`: tags seen so far with their source paths, and the
collision and escape counters. -/
structure CanaryIdGenerator where
  knownIds : List (List Char × List Char)
  collisionsTotal : Nat
  escapesTotal : Nat

/-- `_default_generator` when the process starts. -/
def defaultGenerator : CanaryIdGenerator := ⟨[], 0, 0⟩

/-- `_record_generation`: count a collision when a known tag comes from another path. -/
def recordGeneration (g : CanaryIdGenerator) (canaryId sourcePath : List Char) :
    CanaryIdGenerator :=
  match g.knownIds.lookup canaryId with
  | none => { g with knownIds := (canaryId, sourcePath) :: g.knownIds }
  | some existing =>
    if existing ≠ sourcePath then { g with collisionsTotal := g.collisionsTotal + 1 } else g

/-- The loop of `generate` that re-trims every raw segment. -/
def trimSegments (u : UnicodeData) : List (List Char) → Except String (List (List Char))
  | [] => .ok []
  | segment :: rest =>
    let trimmed := strip u.isSpace segment
    if trimmed.isEmpty then .error "uns_path contains a segment with only whitespace"
    else (trimSegments u rest).map (trimmed :: ·)

/-- `[self._escape_segment(segment) for segment in normalised_segments]`. -/
def escapeSegments (u : UnicodeData) : List (List Char) → Except String (List (List Char × Nat))
  | [] => .ok []
  | segment :: rest => do
    let head ← escapeSegment u segment
    let tail ← escapeSegments u rest
    pure (head :: tail)

/-- The tag `CanaryIdGenerator.generate` derives, with the number of segments it escaped. -/
def generateTag (u : UnicodeData) (unsPath : List Char) : Except String (List Char × Nat) := do
  let trimmed := strip u.isSpace unsPath
  if trimmed.isEmpty then throw "uns_path cannot be blank"
  let rawSegments := splitNonEmpty '/' (strip (· == '/') trimmed)
  if rawSegments.isEmpty then throw "uns_path did not contain any path segments"
  let normalisedSegments ← trimSegments u rawSegments
  let escapedSegments ← escapeSegments u normalisedSegments
  pure (['.'].intercalate (escapedSegments.map Prod.fst),
    (escapedSegments.filter fun escaped ↦ 0 < escaped.2).length)

/-- `CanaryIdGenerator.generate` without the checksum: the tag and the updated generator. -/
def generate (u : UnicodeData) (g : CanaryIdGenerator) (unsPath : List Char) :
    Except String (List Char × CanaryIdGenerator) :=
  (generateTag u unsPath).map fun (canaryId, escapes) ↦
    (canaryId, recordGeneration { g with escapesTotal := g.escapesTotal + escapes } canaryId
      (strip u.isSpace unsPath))

theorem trimSegments_of_trimmed {u : UnicodeData} {segments : List (List Char)}
    (h : ∀ s ∈ segments, s ≠ [] ∧ strip u.isSpace s = s) : trimSegments u segments = .ok segments := by
  induction segments with
  | nil => rfl
  | cons s rest ih =>
    obtain ⟨hne, hs⟩ := h s (List.mem_cons_self _ _)
    rw [trimSegments, hs, ih fun t ht ↦ h t (List.mem_cons_of_mem _ ht)]
    simp [List.isEmpty_iff, hne, Except.map]

theorem escapeSegments_of_allowed {u : UnicodeData} {segments : List (List Char)}
    (h : ∀ s ∈ segments, s ≠ [] ∧ ∀ c ∈ s, isAllowedChar u c = true) :
    escapeSegments u segments = .ok (segments.map (·, 0)) := by
  induction segments with
  | nil => rfl
  | cons s rest ih =>
    obtain ⟨hne, hs⟩ := h s (List.mem_cons_self _ _)
    rw [escapeSegments, escapeSegment_of_allowed hne hs, ih fun t ht ↦ h t (List.mem_cons_of_mem _ ht)]
    rfl

/-- The generator's state only feeds its counters: the tag does not depend on it. -/
theorem generate_map_fst (u : UnicodeData) (g g' : CanaryIdGenerator) (unsPath : List Char) :
    (generate u g unsPath).map Prod.fst = (generate u g' unsPath).map Prod.fst := by
  unfold generate
  cases generateTag u unsPath <;> rfl

end UnsMetadataSync.CanaryId
