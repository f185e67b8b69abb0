import UnsMetadataSync.CanaryId

/-!
# UNS path normalisation

`path_normalizer.py` turns Sparkplug identifiers into slash-separated UNS paths and passes a
path to the tag encoder of `canary_id.py`.  The normaliser emits only characters the encoder
keeps, and never a segment with whitespace or an underscore or hyphen at either end, so the
encoder applied to a normalised path escapes and trims nothing: it replaces `/` by `.` and
nothing else, which is what the database column `canary_id` stores.

The same fact shows that tags do not determine paths.  The normaliser keeps `.` inside a
segment, so two normalised paths that differ only in `/` against `.` share a tag.
-/

namespace UnsMetadataSync.PathNormalizer

open CanaryId

variable (u : UnicodeData)

/-! ## The normaliser -/

/-- `_split_value` on a string: trim, split on `/` only, and drop the empty pieces. -/
def splitValue (value : List Char) : List (List Char) :=
  let text := strip u.isSpace value
  if text.isEmpty then [] else splitNonEmpty '/' text

/-- The character loop of `_normalise_segment`: a run of whitespace becomes one space, and a
character that is neither alphanumeric nor one of `.`, `_`, `-` becomes `_`. -/
def cleanChars : Bool → List Char → List Char
  | _, [] => []
  | lastWasSpace, c :: cs =>
    if u.isSpace c then
      if lastWasSpace then cleanChars true cs else ' ' :: cleanChars true cs
    else
      (if u.isAlnum c || c == '.' || c == '_' || c == '-' then c else '_') :: cleanChars false cs

/-- `re.sub(c + "{2,}", c, s)`: every run of `c` shrinks to a single `c`.  The flag records
whether the previous character kept was `c`. -/
def collapseRuns (c : Char) : Bool → List Char → List Char
  | _, [] => []
  | afterC, x :: xs =>
    if x == c && afterC then collapseRuns c true xs else x :: collapseRuns c (x == c) xs

/-- The characters removed by `cleaned.strip("_ -")`. -/
def isStripChar (c : Char) : Bool := c == '_' || c == ' ' || c == '-'

/-- `_normalise_segment`. -/
def normaliseSegment (segment : List Char) : List Char :=
  let normalised := strip u.isSpace (u.nfc segment)
  if normalised.isEmpty then []
  else strip isStripChar (collapseRuns '-' false (collapseRuns '_' false (cleanChars u false normalised)))

/-- `_normalised_segments`, applied to the segments `_split_value` produced. -/
def normalisedSegments (segments : List (List Char)) : List (List Char) :=
  (segments.map (normaliseSegment u)).filter fun s ↦ !s.isEmpty

/-- `normalize_device_path`; `device = none` is `None`, `extraSegments = []` is `None`. -/
def normalizeDevicePath (group edgeNode : List Char) (device : Option (List Char))
    (extraSegments : List (List Char)) : Except String (List Char) :=
  if group.isEmpty then .error "group is required for UNS device path"
  else if edgeNode.isEmpty then .error "edge_node is required for UNS device path"
  else
    let segments := normalisedSegments u (splitValue u group ++ splitValue u edgeNode ++
      (device.map (splitValue u)).getD [] ++ extraSegments.flatMap (splitValue u))
    if segments.isEmpty then .error "unable to derive any segments for UNS device path"
    else .ok (['/'].intercalate segments)

/-- `normalize_metric_path`; `device = none` is `None`, `extraSegments = []` is `None`. -/
def normalizeMetricPath (group edgeNode : List Char) (device : Option (List Char))
    (metricName : List Char) (extraSegments : List (List Char)) : Except String (List Char) :=
  if metricName.isEmpty then .error "metric_name is required for UNS metric path"
  else
    let deviceSegments := normalisedSegments u
      (splitValue u group ++ splitValue u edgeNode ++ (device.map (splitValue u)).getD [])
    if deviceSegments.isEmpty then .error "unable to derive device portion for metric path"
    else
      let metricSegments :=
        normalisedSegments u (extraSegments.flatMap (splitValue u) ++ splitValue u metricName)
      if metricSegments.isEmpty then .error "metric_name did not yield any path segments"
      else .ok (['/'].intercalate (deviceSegments ++ metricSegments))

/-- `metric_path_to_canary_id`, threading the process-wide generator `g`. -/
def metricPathToCanaryId (g : CanaryIdGenerator) (metricPath : List Char) :
    Except String (List Char × CanaryIdGenerator) :=
  let trimmed := strip u.isSpace metricPath
  if trimmed.isEmpty then .error "metric_path must not be empty" else generate u g trimmed

/-- The tag `metric_path_to_canary_id` returns; by `metricPathToCanaryId_map_fst` it does not
depend on the generator's state. -/
def metricPathTag (metricPath : List Char) : Except String (List Char) :=
  (metricPathToCanaryId u defaultGenerator metricPath).map Prod.fst

/-- The generated column of the metrics table:
`canary_id GENERATED ALWAYS AS (replace(uns_path, '/', '.'))`. -/
def generatedCanaryId (unsPath : List Char) : List Char :=
  unsPath.map fun c ↦ if c == '/' then '.' else c

theorem metricPathToCanaryId_map_fst (g : CanaryIdGenerator) (metricPath : List Char) :
    (metricPathToCanaryId u g metricPath).map Prod.fst = metricPathTag u metricPath := by
  simp only [metricPathTag, metricPathToCanaryId]
  split_ifs
  · rfl
  · exact generate_map_fst u g defaultGenerator _

/-! ## What a normalised segment looks like -/

/-- The characters `_normalise_segment` can emit. -/
def CleanChar (c : Char) : Prop :=
  c = ' ' ∨ c = '_' ∨ (u.isSpace c = false ∧ (u.isAlnum c = true ∨ c = '.' ∨ c = '-'))

/-- Every segment `_normalised_segments` keeps: non-empty, clean, and without a space,
underscore or hyphen at either end. -/
structure CleanSegment (s : List Char) : Prop where
  ne_nil : s ≠ []
  clean : ∀ c ∈ s, CleanChar u c
  head_solid : ∀ c ∈ s.head?, isStripChar c = false
  last_solid : ∀ c ∈ s.getLast?, isStripChar c = false

variable {u}

theorem CleanChar.allowed {c : Char} (h : CleanChar u c) : isAllowedChar u c = true := by
  rcases h with rfl | rfl | ⟨-, h | rfl | rfl⟩ <;> simp [isAllowedChar, *]

theorem CleanChar.ne_slash {c : Char} (h : CleanChar u c) : c ≠ '/' := by
  rintro rfl
  rcases h with h | h | ⟨-, h | h | h⟩ <;> simp_all [u.isAlnum_slash]

/-- A clean character that `strip("_ -")` keeps at an end is not whitespace. -/
theorem CleanChar.not_space {c : Char} (h : CleanChar u c) (hs : isStripChar c = false) :
    u.isSpace c = false := by
  rcases h with rfl | rfl | ⟨h, -⟩ <;> simp_all [isStripChar]

theorem cleanChars_clean (b : Bool) (s : List Char) : ∀ c ∈ cleanChars u b s, CleanChar u c := by
  induction s generalizing b with
  | nil => simp [cleanChars]
  | cons x xs ih =>
    intro c hc
    by_cases hx : u.isSpace x
    · cases b <;> simp only [cleanChars, hx, if_true, Bool.false_eq_true, if_false,
        List.mem_cons] at hc
      all_goals first | exact ih _ c hc | rcases hc with rfl | hc; exacts [Or.inl rfl, ih _ c hc]
    · simp only [cleanChars, hx, Bool.false_eq_true, if_false, List.mem_cons] at hc
      rcases hc with rfl | hc
      · split_ifs with hkeep
        · simp only [Bool.or_eq_true, beq_iff_eq] at hkeep
          rcases hkeep with ((h | h) | h) | h
          · exact Or.inr (Or.inr ⟨by simpa using hx, Or.inl h⟩)
          · exact Or.inr (Or.inr ⟨by simpa using hx, Or.inr (Or.inl h)⟩)
          · exact Or.inr (Or.inl h)
          · exact Or.inr (Or.inr ⟨by simpa using hx, Or.inr (Or.inr h)⟩)
        · exact Or.inr (Or.inl rfl)
      · exact ih _ c hc

theorem collapseRuns_subset (c : Char) (b : Bool) (s : List Char) : collapseRuns c b s ⊆ s := by
  induction s generalizing b with
  | nil => simp [collapseRuns]
  | cons x xs ih =>
    simp only [collapseRuns]
    split_ifs
    · exact fun a ha ↦ List.subset_cons_self x xs (ih true ha)
    · exact List.cons_subset_cons x (ih _)

theorem normaliseSegment_clean {segment : List Char} (hne : normaliseSegment u segment ≠ []) :
    CleanSegment u (normaliseSegment u segment) := by
  simp only [normaliseSegment] at hne ⊢
  split_ifs at hne ⊢ with h
  · exact absurd rfl hne
  · refine ⟨hne, fun c hc ↦ ?_, strip_head, strip_last⟩
    exact cleanChars_clean false _ c
      (collapseRuns_subset _ _ _ (collapseRuns_subset _ _ _ (strip_subset _ _ hc)))

theorem normalisedSegments_clean (segments : List (List Char)) :
    ∀ s ∈ normalisedSegments u segments, CleanSegment u s := by
  intro s hs
  simp only [normalisedSegments, List.mem_filter, List.mem_map, Bool.not_eq_true',
    List.isEmpty_eq_false] at hs
  obtain ⟨⟨segment, -, rfl⟩, hne⟩ := hs
  exact normaliseSegment_clean (by simpa [List.isEmpty_iff] using hne)

/-! ## Joined segments -/

theorem intercalate_cons_cons (x : Char) (s t : List Char) (ts : List (List Char)) :
    [x].intercalate (s :: t :: ts) = s ++ x :: [x].intercalate (t :: ts) := by
  simp [List.intercalate, List.intersperse_cons_cons]

theorem intercalate_ne_nil {x : Char} {segments : List (List Char)}
    (hne : ∀ s ∈ segments, s ≠ []) (hsegs : segments ≠ []) : [x].intercalate segments ≠ [] := by
  match segments, hsegs with
  | [s], _ => simpa [List.intercalate] using hne s (List.mem_singleton_self s)
  | s :: t :: ts, _ => simp [intercalate_cons_cons, hne s (List.mem_cons_self _ _)]

theorem head?_intercalate {x : Char} {segments : List (List Char)}
    (hne : ∀ s ∈ segments, s ≠ []) :
    ∀ c ∈ ([x].intercalate segments).head?, ∃ s ∈ segments, c ∈ s.head? := by
  intro c hc
  match segments with
  | [] => simp [List.intercalate] at hc
  | [s] => exact ⟨s, List.mem_singleton_self s, by simpa [List.intercalate] using hc⟩
  | s :: t :: ts =>
    have hs : s.head?.isSome := by
      simpa [Option.isSome_iff_ne_none] using hne s (List.mem_cons_self _ _)
    rw [intercalate_cons_cons, List.head?_append, Option.or_of_isSome hs] at hc
    exact ⟨s, List.mem_cons_self _ _, hc⟩

theorem getLast?_intercalate {x : Char} {segments : List (List Char)}
    (hne : ∀ s ∈ segments, s ≠ []) :
    ∀ c ∈ ([x].intercalate segments).getLast?, ∃ s ∈ segments, c ∈ s.getLast? := by
  induction segments with
  | nil => simp [List.intercalate]
  | cons s rest ih =>
    intro c hc
    match rest, ih, hne with
    | [], _, _ => exact ⟨s, List.mem_singleton_self s, by simpa [List.intercalate] using hc⟩
    | t :: ts, ih, hne =>
      have hrest : [x].intercalate (t :: ts) ≠ [] :=
        intercalate_ne_nil (fun r hr ↦ hne r (List.mem_cons_of_mem _ hr)) (List.cons_ne_nil _ _)
      rw [intercalate_cons_cons, List.getLast?_append, List.getLast?_cons,
        List.getLast?_eq_getLast _ hrest] at hc
      obtain ⟨r, hr, hcr⟩ := ih (fun r hr ↦ hne r (List.mem_cons_of_mem _ hr)) c
        (by simpa [List.getLast?_eq_getLast _ hrest] using hc)
      exact ⟨r, List.mem_cons_of_mem _ hr, hcr⟩

variable {segments : List (List Char)}

/-- Joining clean segments with `/` gives a path that `strip()` and `strip("/")` leave alone. -/
theorem strip_intercalate (hclean : ∀ s ∈ segments, CleanSegment u s) (p : Char → Bool)
    (hp : ∀ c, CleanChar u c → isStripChar c = false → p c = false) :
    strip p (['/'].intercalate segments) = ['/'].intercalate segments := by
  have hne : ∀ s ∈ segments, s ≠ [] := fun s hs ↦ (hclean s hs).ne_nil
  apply strip_eq_self
  · intro c hc
    obtain ⟨s, hs, hcs⟩ := head?_intercalate hne c hc
    exact hp c ((hclean s hs).clean c (List.mem_of_mem_head? hcs)) ((hclean s hs).head_solid c hcs)
  · intro c hc
    obtain ⟨s, hs, hcs⟩ := getLast?_intercalate hne c hc
    exact hp c ((hclean s hs).clean c (List.mem_of_mem_getLast? hcs)) ((hclean s hs).last_solid c hcs)

/-- The encoder applied to clean segments joined with `/` joins them with `.` instead. -/
theorem generate_intercalate (hsegs : segments ≠ []) (hclean : ∀ s ∈ segments, CleanSegment u s)
    (g : CanaryIdGenerator) :
    ∃ g', generate u g (['/'].intercalate segments) = .ok (['.'].intercalate segments, g') := by
  have hne : ∀ s ∈ segments, s ≠ [] := fun s hs ↦ (hclean s hs).ne_nil
  have hspace := strip_intercalate hclean u.isSpace fun c hc hs ↦ hc.not_space hs
  have hslash := strip_intercalate hclean (· == '/') fun c hc _ ↦ by simpa using hc.ne_slash
  have hsplit : splitNonEmpty '/' (['/'].intercalate segments) = segments := by
    rw [splitNonEmpty, List.splitOn_intercalate _ '/'
      (fun s hs hslash ↦ ((hclean s hs).clean '/' hslash).ne_slash rfl) hsegs, List.filter_eq_self]
    intro s hs
    simpa [List.isEmpty_iff] using hne s hs
  have htrim := trimSegments_of_trimmed (u := u) fun s hs ↦ ⟨hne s hs,
    strip_eq_self (fun c hc ↦ ((hclean s hs).clean c (List.mem_of_mem_head? hc)).not_space
      ((hclean s hs).head_solid c hc))
    (fun c hc ↦ ((hclean s hs).clean c (List.mem_of_mem_getLast? hc)).not_space
      ((hclean s hs).last_solid c hc))⟩
  have hescape := escapeSegments_of_allowed (u := u) fun s hs ↦
    ⟨hne s hs, fun c hc ↦ ((hclean s hs).clean c hc).allowed⟩
  have hpath := intercalate_ne_nil (x := '/') hne hsegs
  have htag : generateTag u (['/'].intercalate segments) = .ok (['.'].intercalate segments, 0) := by
    simp [generateTag, hspace, hslash, hsplit, htrim, hescape, List.isEmpty_iff, hpath, hsegs, bind,
      Except.bind, pure, Except.pure, Function.comp_def]
  exact ⟨_, by rw [generate, htag]; rfl⟩


theorem generatedCanaryId_intercalate (hslash : ∀ s ∈ segments, '/' ∉ s) :
    generatedCanaryId (['/'].intercalate segments) = ['.'].intercalate segments := by
  have hkeep : ∀ s ∈ segments, s.map (fun c ↦ if c == '/' then '.' else c) = s := fun s hs ↦ by
    conv_rhs => rw [← List.map_id s]
    refine List.map_congr_left fun c hc ↦ ?_
    simp [show c ≠ '/' from fun h ↦ hslash s hs (h ▸ hc)]
  induction segments with
  | nil => rfl
  | cons s rest ih =>
    match rest, ih with
    | [], _ => simpa [generatedCanaryId, List.intercalate] using hkeep s (List.mem_singleton_self s)
    | t :: ts, ih =>
      rw [intercalate_cons_cons, intercalate_cons_cons, generatedCanaryId, List.map_append,
        List.map_cons, hkeep s (List.mem_cons_self _ _)]
      simp only [beq_self_eq_true, if_true]
      rw [← generatedCanaryId, ih (fun r hr ↦ hslash r (List.mem_cons_of_mem _ hr))
        (fun r hr ↦ hkeep r (List.mem_cons_of_mem _ hr))]

/-! ## Normalised paths and their tags -/

/-- A path `normalize_metric_path` returns is a non-empty list of clean segments joined by `/`. -/
theorem normalizeMetricPath_eq {group edgeNode metricName : List Char} {device : Option (List Char)}
    {extraSegments : List (List Char)} {p : List Char}
    (h : normalizeMetricPath u group edgeNode device metricName extraSegments = .ok p) :
    ∃ segments, segments ≠ [] ∧ (∀ s ∈ segments, CleanSegment u s) ∧
      p = ['/'].intercalate segments := by
  simp only [normalizeMetricPath] at h
  split_ifs at h with h1 h2 h3
  cases h
  refine ⟨_, ?_, fun s hs ↦ ?_, rfl⟩
  · simp_all [List.isEmpty_iff]
  · rcases List.mem_append.1 hs with hs | hs <;> exact normalisedSegments_clean _ s hs

/-- On a normalised path the tag encoder is the generated column: it escapes and trims nothing,
and splitting the path on `/` gives back the clean segments. -/
theorem metricPathToCanaryId_normalized {group edgeNode metricName : List Char}
    {device : Option (List Char)} {extraSegments : List (List Char)} {p : List Char}
    (h : normalizeMetricPath u group edgeNode device metricName extraSegments = .ok p)
    (g : CanaryIdGenerator) :
    ∃ segments, p.splitOn '/' = segments ∧ (∀ s ∈ segments, CleanSegment u s) ∧
      generatedCanaryId p = ['.'].intercalate segments ∧
      ∃ g', metricPathToCanaryId u g p = .ok (generatedCanaryId p, g') := by
  obtain ⟨segments, hsegs, hclean, rfl⟩ := normalizeMetricPath_eq h
  have hslash : ∀ s ∈ segments, '/' ∉ s := fun s hs hc ↦ ((hclean s hs).clean '/' hc).ne_slash rfl
  have hcolumn := generatedCanaryId_intercalate hslash
  obtain ⟨g', hgen⟩ := generate_intercalate hsegs hclean g
  refine ⟨segments, List.splitOn_intercalate _ '/' hslash hsegs, hclean, hcolumn, g', ?_⟩
  have hpath := intercalate_ne_nil (x := '/') (fun s hs ↦ (hclean s hs).ne_nil) hsegs
  simp [metricPathToCanaryId, strip_intercalate hclean u.isSpace fun c hc hs ↦ hc.not_space hs,
    List.isEmpty_iff, hpath, hgen, hcolumn]

theorem metricPathToCanaryId_agrees_with_generated_column {group edgeNode metricName : List Char}
    {device : Option (List Char)} {extraSegments : List (List Char)} {p : List Char}
    (h : normalizeMetricPath u group edgeNode device metricName extraSegments = .ok p)
    (g : CanaryIdGenerator) :
    (∃ g', metricPathToCanaryId u g p = .ok (generatedCanaryId p, g')) ∧
      ∀ s ∈ p.splitOn '/', s ≠ [] ∧ (∀ c ∈ s, isAllowedChar u c = true) ∧
        (∀ c ∈ s.head?, u.isSpace c = false) ∧ (∀ c ∈ s.getLast?, u.isSpace c = false) := by
  obtain ⟨segments, hsplit, hclean, -, htag⟩ := metricPathToCanaryId_normalized h g
  refine ⟨htag, fun s hs ↦ ?_⟩
  rw [hsplit] at hs
  have hs := hclean s hs
  exact ⟨hs.ne_nil, fun c hc ↦ (hs.clean c hc).allowed,
    fun c hc ↦ (hs.clean c (List.mem_of_mem_head? hc)).not_space (hs.head_solid c hc),
    fun c hc ↦ (hs.clean c (List.mem_of_mem_getLast? hc)).not_space (hs.last_solid c hc)⟩


/-- Python's tables restricted to ASCII: `isalnum` is `[0-9A-Za-z]`, `isspace` holds for
`\t`, `\n`, `\v`, `\f`, `\r`, the separators `\x1c` to `\x1f` and the space, NFC leaves
ASCII text unchanged, and the case mappings change only `A-Z` and `a-z`.  The inputs below are
ASCII, where these agree with Python. -/
def asciiTables : UnicodeData where
  isAlnum := Char.isAlphanum
  isSpace c := (9 ≤ c.toNat && c.toNat ≤ 13) || (28 ≤ c.toNat && c.toNat ≤ 32)
  nfc := id
  lower := List.map Char.toLower
  upper := List.map Char.toUpper
  isAlnum_slash := rfl

/-- The spec's scenario path `G/E/D/kiln.temp`. -/
theorem kiln_temp_tag_matches_column :
    normalizeMetricPath asciiTables "G".toList "E".toList (some "D".toList) "kiln.temp".toList [] =
        .ok "G/E/D/kiln.temp".toList ∧
      ((∃ g', metricPathToCanaryId asciiTables defaultGenerator "G/E/D/kiln.temp".toList =
          .ok (generatedCanaryId "G/E/D/kiln.temp".toList, g')) ∧
        ∀ s ∈ "G/E/D/kiln.temp".toList.splitOn '/', s ≠ [] ∧
          (∀ c ∈ s, isAllowedChar asciiTables c = true) ∧
          (∀ c ∈ s.head?, asciiTables.isSpace c = false) ∧
          (∀ c ∈ s.getLast?, asciiTables.isSpace c = false)) :=
  have h : normalizeMetricPath asciiTables "G".toList "E".toList (some "D".toList) "kiln.temp".toList [] =
      .ok "G/E/D/kiln.temp".toList := rfl
  ⟨h, metricPathToCanaryId_agrees_with_generated_column h defaultGenerator⟩

/-! ## Tags do not determine paths -/

theorem splitOn_append_cons (x : Char) (xs ys : List Char) :
    (xs ++ x :: ys).splitOn x = xs.splitOn x ++ ys.splitOn x := by
  induction xs with
  | nil => simp [List.splitOn, List.splitOnP_cons]
  | cons a xs ih =>
    simp only [List.splitOn] at ih ⊢
    rw [List.cons_append, List.splitOnP_cons, List.splitOnP_cons, ih]
    split_ifs
    · rfl
    · obtain ⟨head, tail, hxs⟩ := List.exists_cons_of_ne_nil (List.splitOnP_ne_nil (· == x) xs)
      simp [hxs]

theorem splitOn_intercalate_flatMap (x : Char) :
    ∀ {segments : List (List Char)}, segments ≠ [] →
      ([x].intercalate segments).splitOn x = segments.flatMap (·.splitOn x)
  | [s], _ => by simp [List.intercalate]
  | s :: t :: ts, _ => by
    rw [intercalate_cons_cons, splitOn_append_cons, splitOn_intercalate_flatMap x
      (List.cons_ne_nil t ts)]
    simp [List.flatMap_cons]

/-- Splitting the tag of a normalised path on `.` splits every segment at its own dots as well:
the tag equals `p.replace('/', '.')`, so it loses the difference between `/` and a `.` kept
inside a segment. -/
theorem canaryTag_splitOn_dot {group edgeNode metricName : List Char}
    {device : Option (List Char)} {extraSegments : List (List Char)} {p : List Char}
    (h : normalizeMetricPath u group edgeNode device metricName extraSegments = .ok p)
    (g : CanaryIdGenerator) :
    ∃ g', metricPathToCanaryId u g p = .ok (generatedCanaryId p, g') ∧
      (generatedCanaryId p).splitOn '.' = (p.splitOn '/').flatMap (·.splitOn '.') := by
  obtain ⟨segments, hsplit, hclean, hcolumn, g', htag⟩ := metricPathToCanaryId_normalized h g
  have hsegs : segments ≠ [] := by
    rintro rfl
    exact List.splitOnP_ne_nil _ _ hsplit
  refine ⟨g', htag, ?_⟩
  rw [hcolumn, hsplit, splitOn_intercalate_flatMap '.' hsegs]

theorem kiln_temp_tag_splits_at_dot :
    normalizeMetricPath asciiTables "G".toList "E".toList (some "D".toList) "kiln.temp".toList [] =
        .ok "G/E/D/kiln.temp".toList ∧
      ∃ g', metricPathToCanaryId asciiTables defaultGenerator "G/E/D/kiln.temp".toList =
          .ok (generatedCanaryId "G/E/D/kiln.temp".toList, g') ∧
        (generatedCanaryId "G/E/D/kiln.temp".toList).splitOn '.' =
          ("G/E/D/kiln.temp".toList.splitOn '/').flatMap (·.splitOn '.') :=
  have h : normalizeMetricPath asciiTables "G".toList "E".toList (some "D".toList) "kiln.temp".toList [] =
      .ok "G/E/D/kiln.temp".toList := rfl
  ⟨h, canaryTag_splitOn_dot h defaultGenerator⟩

/-- `G/E/D/kiln.temp` and `G/E/D/kiln/temp` are distinct normalised paths with one tag, and
the tag splits into five pieces where the first path has four segments. -/
theorem kiln_paths_share_tag :
    normalizeMetricPath asciiTables "G".toList "E".toList (some "D".toList) "kiln.temp".toList [] =
        .ok "G/E/D/kiln.temp".toList ∧
      normalizeMetricPath asciiTables "G".toList "E".toList (some "D".toList) "kiln/temp".toList [] =
        .ok "G/E/D/kiln/temp".toList ∧
      (metricPathToCanaryId asciiTables defaultGenerator "G/E/D/kiln.temp".toList).map Prod.fst =
        .ok "G.E.D.kiln.temp".toList ∧
      (metricPathToCanaryId asciiTables defaultGenerator "G/E/D/kiln/temp".toList).map Prod.fst =
        .ok "G.E.D.kiln.temp".toList ∧
      ("G.E.D.kiln.temp".toList.splitOn '.').length = 5 ∧
      ("G/E/D/kiln.temp".toList.splitOn '/').length = 4 :=
  ⟨rfl, rfl, rfl, rfl, rfl, rfl⟩

end UnsMetadataSync.PathNormalizer
