import UnsMetadataSync.Cdc.DebounceRuns

/-!
# The debounce buffer with its insertion sequence

`DebounceBuffer` keeps, beside the `_entries` dict, a list `_sequence` of the pending keys:
`add` appends a new key to it, `flush_due` sorts the ready keys by `_sequence.index` and takes
each one out with `_sequence.remove`, as `_enforce_cap` does with the oldest key.  `index`,
`remove` and `pop` raise when the key is missing, so the model below runs them as fallible
operations and says what each call returns.

The two lists agree: `_sequence` is the list of the dict's keys, in order.  Under that agreement
every call returns normally and does what the dict model of `Debounce` does, so that model is
what this buffer refines.  Along any run of calls, a ledger kept beside the buffer numbers each
entry `add` creates; every number is then pending, handed out by one flush, or dropped by the cap,
and the pending keys stand in the order of their numbers.
-/

namespace UnsMetadataSync.Cdc.DebounceSequence

open Json Debounce DebounceRuns

/-! ## Python's list and dict operations -/

/-- `list.remove(x)`: the first occurrence out. -/
def pyListRemove (l : List String) (x : String) : Except String (List String) :=
  if x ∈ l then .ok (l.erase x) else .error "list.remove(x): x not in list"

/-- `list.index(x)`: the position of the first occurrence. -/
def pyListIndex (l : List String) (x : String) : Except String Nat :=
  if x ∈ l then .ok (l.indexOf x) else .error (pyReprStr x ++ " is not in list")

/-- `dict.pop(key)`: the value and the rest of the dict, or the `KeyError`, whose text is the
key's `repr`. -/
def pyDictPop (d : List (String × DebounceEntry)) (key : String) :
    Except String (DebounceEntry × List (String × DebounceEntry)) :=
  match d.lookup key with
  | some entry => .ok (entry, d.filter (·.1 != key))
  | none => .error (pyReprStr key)

/-! ## The buffer -/

/-- `DebounceBuffer` with `_sequence`. -/
structure SequencedBuffer where
  windowSeconds : ℚ
  maxEntries : Nat
  entries : List (String × DebounceEntry)
  sequence : List String
  dropped : Nat
  emitted : Nat
  windowSeconds_pos : 0 < windowSeconds
  maxEntries_pos : 0 < maxEntries

namespace SequencedBuffer

/-- A new, empty buffer. -/
def create (windowSeconds : ℚ) (maxEntries : Nat) (windowSeconds_pos : 0 < windowSeconds)
    (maxEntries_pos : 0 < maxEntries) : SequencedBuffer :=
  ⟨windowSeconds, maxEntries, [], [], 0, 0, windowSeconds_pos, maxEntries_pos⟩

/-- `pending_keys()`. -/
def pendingKeys (b : SequencedBuffer) : List String := b.sequence

/-- `min(self._entries.values(), key=lambda entry: entry.last_update)`: the first entry with the
oldest update. -/
def oldestEntry : List (String × DebounceEntry) → Option DebounceEntry
  | [] => none
  | (_, entry) :: rest =>
    match oldestEntry rest with
    | none => some entry
    | some other => if entry.lastUpdate ≤ other.lastUpdate then some entry else some other

/-- `_enforce_cap`.  Each round drops one entry, so `fuel = len(entries)` rounds suffice. -/
def enforceCap : Nat → SequencedBuffer → Except String Unit × SequencedBuffer
  | 0, b => (.ok (), b)
  | fuel + 1, b =>
    if b.entries.length ≤ b.maxEntries then (.ok (), b)
    else match oldestEntry b.entries with
      | none => (.error "min() iterable argument is empty", b)
      | some oldest =>
        match pyDictPop b.entries oldest.metricKey with
        | .error e => (.error e, b)
        | .ok (_, entries) =>
          match pyListRemove b.sequence oldest.metricKey with
          | .error e => (.error e, { b with entries })
          | .ok sequence => enforceCap fuel { b with entries, sequence, dropped := b.dropped + 1 }

/-- `add`, with the timestamp of the call the explicit one or the clock reading.  A new entry is
stored and its key appended to `_sequence` before `merge` writes into it. -/
def add (b : SequencedBuffer) (c : AddCall) : Except String Unit × SequencedBuffer :=
  let (entry, b) := match b.entries.lookup c.metricKey with
    | some entry => (entry, b)
    | none =>
      (fresh c.metricKey c.timestamp,
        { b with entries := setItem b.entries c.metricKey (fresh c.metricKey c.timestamp)
                 sequence := b.sequence ++ [c.metricKey] })
  let b := { b with entries := setItem b.entries c.metricKey (mergeCall entry c) }
  enforceCap b.entries.length b

/-- The loop of `flush_due` over the sorted ready keys. -/
def popReady : List String → List FlushedEntry → SequencedBuffer →
    Except String (List FlushedEntry) × SequencedBuffer
  | [], payloads, b => (.ok payloads, b)
  | key :: keys, payloads, b =>
    match pyDictPop b.entries key with
    | .error e => (.error e, b)
    | .ok (entry, entries) =>
      match pyListRemove b.sequence key with
      | .error e => (.error e, { b with entries })
      | .ok sequence => popReady keys (payloads ++ [entry.flushed]) { b with entries, sequence }

/-- `flush_due(now=current)`: the ready keys in dict order, sorted by `_sequence.index` (a
stable sort), then popped one by one. -/
def flushDue (b : SequencedBuffer) (current : ℚ) :
    Except String (List FlushedEntry) × SequencedBuffer :=
  let readyKeys := (b.entries.filter fun (_, entry) ↦ b.windowSeconds ≤ current - entry.lastUpdate).map (·.1)
  match readyKeys.mapM (pyListIndex b.sequence) with
  | .error e => (.error e, b)
  | .ok indices =>
    let sorted := ((readyKeys.zip indices).mergeSort fun x y ↦ decide (x.2 ≤ y.2)).map (·.1)
    match popReady sorted [] b with
    | (.error e, b) => (.error e, b)
    | (.ok payloads, b) => (.ok payloads, { b with emitted := b.emitted + readyKeys.length })

/-- The dict model of the buffer: everything but `_sequence`. -/
def toBuffer (b : SequencedBuffer) : DebounceBuffer :=
  ⟨b.windowSeconds, b.maxEntries, b.entries, b.dropped, b.emitted, b.windowSeconds_pos,
    b.maxEntries_pos⟩

end SequencedBuffer

/-! ## The two lists agree -/

/-- `_sequence` lists the dict's keys, each once, and each entry is stored under its own
`metric_key`. -/
structure Synced (entries : List (String × DebounceEntry)) (sequence : List String) : Prop where
  sequence_eq : sequence = entries.map Prod.fst
  nodup : (entries.map Prod.fst).Nodup
  keyed : ∀ k e, (k, e) ∈ entries → e.metricKey = k

/-- Taking entries out keeps the agreement, once their keys leave `_sequence`. -/
theorem Synced.sublist {entries entries' : List (String × DebounceEntry)} {sequence : List String}
    (hs : Synced entries sequence) (h : List.Sublist entries' entries) : Synced entries' (entries'.map Prod.fst) :=
  ⟨rfl, hs.nodup.sublist (h.map _), fun k e he ↦ hs.keyed k e (h.subset he)⟩

/-- The dict after `add` merged its call, before the cap. -/
def addedEntries (entries : List (String × DebounceEntry)) (c : AddCall) : List (String × DebounceEntry) :=
  setItem entries c.metricKey (mergeCall ((entries.lookup c.metricKey).getD (fresh c.metricKey c.timestamp)) c)

theorem Synced.addedEntries {entries : List (String × DebounceEntry)} {sequence : List String}
    (hs : Synced entries sequence) (c : AddCall) :
    Synced (addedEntries entries c) ((addedEntries entries c).map Prod.fst) := by
  refine ⟨rfl, nodup_keys_setItem hs.nodup _ _, fun k e he ↦ ?_⟩
  rcases mem_setItem he with he | he
  · exact hs.keyed k e he
  · obtain ⟨rfl, rfl⟩ := Prod.mk.inj he
    cases hl : entries.lookup c.metricKey with
    | none => rfl
    | some entry => simpa using hs.keyed _ _ (mem_of_lookup_eq_some hl)

/-- `list.index` of keys the list holds never raises. -/
theorem mapM_pyListIndex {l : List String} :
    ∀ {ks : List String}, (∀ k ∈ ks, k ∈ l) → ks.mapM (pyListIndex l) = .ok (ks.map l.indexOf)
  | [], _ => rfl
  | k :: ks, h => by
    rw [List.mapM_cons, pyListIndex, if_pos (h k (List.mem_cons_self _ _)),
      mapM_pyListIndex fun k' hk' ↦ h k' (List.mem_cons_of_mem _ hk')]
    rfl

/-- Along a sublist of a list without repeats, the positions in the list increase. -/
theorem pairwise_indexOf {l ks : List String} (hl : l.Nodup) (h : List.Sublist ks l) :
    ks.Pairwise fun a b ↦ l.indexOf a < l.indexOf b := by
  induction h with
  | slnil => exact .nil
  | cons a h ih =>
    obtain ⟨ha, hl⟩ := List.nodup_cons.1 hl
    have hne : ∀ x, x ∈ _ → a ≠ x := fun x hx hax ↦ ha (hax ▸ h.subset hx)
    refine (ih hl).imp_of_mem fun hx hy hxy ↦ ?_
    simpa [List.indexOf_cons, hne _ hx, hne _ hy] using hxy
  | cons₂ a h ih =>
    obtain ⟨ha, hl⟩ := List.nodup_cons.1 hl
    have hne : ∀ x, x ∈ _ → a ≠ x := fun x hx hax ↦ ha (hax ▸ h.subset hx)
    refine List.pairwise_cons.2 ⟨fun y hy ↦ by simp [List.indexOf_cons, hne _ hy], ?_⟩
    refine (ih hl).imp_of_mem fun hx hy hxy ↦ ?_
    simpa [List.indexOf_cons, hne _ hx, hne _ hy] using hxy

/-- Sorting keys by `_sequence.index` keeps keys already in `_sequence` order. -/
theorem sort_by_index {l ks : List String} (hl : l.Nodup) (h : List.Sublist ks l) :
    ((ks.zip (ks.map l.indexOf)).mergeSort fun x y ↦ decide (x.2 ≤ y.2)).map (·.1) = ks := by
  have hzip : ks.zip (ks.map l.indexOf) = ks.map fun k ↦ (k, l.indexOf k) := by
    simpa using List.zip_map' (l := ks) id l.indexOf
  rw [hzip, List.mergeSort_of_sorted, List.map_map]
  · exact List.map_id'' (fun _ ↦ rfl) _
  · exact List.pairwise_map.2 ((pairwise_indexOf hl h).imp fun hab ↦ by simpa using hab.le)

namespace SequencedBuffer

theorem oldestEntry_mem {entries : List (String × DebounceEntry)} {oldest : DebounceEntry}
    (h : oldestEntry entries = some oldest) : ∃ k, (k, oldest) ∈ entries := by
  induction entries with
  | nil => cases h
  | cons e rest ih =>
    obtain ⟨k, entry⟩ := e
    unfold oldestEntry at h
    split at h
    · cases h; exact ⟨k, List.mem_cons_self _ _⟩
    · rename_i other hother
      split_ifs at h
      · cases h; exact ⟨k, List.mem_cons_self _ _⟩
      · cases h; obtain ⟨k, hk⟩ := ih hother; exact ⟨k, List.mem_cons_of_mem _ hk⟩

/-- On agreeing lists, the oldest entry is the one under the dict model's oldest key. -/
theorem oldestKey_eq {entries : List (String × DebounceEntry)} {sequence : List String}
    (hs : Synced entries sequence) :
    DebounceBuffer.oldestKey entries = (oldestEntry entries).map (·.metricKey) := by
  induction entries generalizing sequence with
  | nil => rfl
  | cons e rest ih =>
    obtain ⟨k, e⟩ := e
    have hrest : Synced rest (rest.map Prod.fst) := hs.sublist (List.sublist_cons_self _ _)
    have hk : e.metricKey = k := hs.keyed k e (List.mem_cons_self _ _)
    simp only [DebounceBuffer.oldestKey, oldestEntry, ih hrest]
    cases ho : oldestEntry rest with
    | none => simp [hk]
    | some o =>
      obtain ⟨k', hk'⟩ := oldestEntry_mem ho
      have hlookup : rest.lookup o.metricKey = some o := by
        rw [hrest.keyed k' o hk']; exact lookup_eq_some_of_mem hrest.nodup hk'
      simp only [Option.map_some', hlookup, Option.all_some, decide_eq_true_eq]
      split_ifs <;> simp [hk]

/-- `pop` and `remove` of a key the buffer holds. -/
theorem pop_remove {entries : List (String × DebounceEntry)} {sequence : List String}
    (hs : Synced entries sequence) {k : String} {e : DebounceEntry} (h : (k, e) ∈ entries) :
    pyDictPop entries k = .ok (e, entries.filter (·.1 != k)) ∧
      pyListRemove sequence k = .ok ((entries.filter (·.1 != k)).map Prod.fst) := by
  refine ⟨by simp [pyDictPop, lookup_eq_some_of_mem hs.nodup h], ?_⟩
  rw [pyListRemove, if_pos (hs.sequence_eq ▸ List.mem_map_of_mem Prod.fst h), hs.sequence_eq,
    keys_filter_key hs.nodup]

/-- `_enforce_cap` on agreeing lists never raises, and does what the dict model does. -/
theorem enforceCap_eq (fuel : Nat) {b : SequencedBuffer} (hs : Synced b.entries b.sequence) :
    enforceCap fuel b = (.ok (),
      { b with entries := (DebounceBuffer.enforceCapAux b.maxEntries fuel (b.entries, b.dropped)).1
               sequence := (DebounceBuffer.enforceCapAux b.maxEntries fuel (b.entries, b.dropped)).1.map Prod.fst
               dropped := (DebounceBuffer.enforceCapAux b.maxEntries fuel (b.entries, b.dropped)).2 }) := by
  induction fuel generalizing b with
  | zero => simp only [enforceCap, DebounceBuffer.enforceCapAux, ← hs.sequence_eq]
  | succ fuel ih =>
    unfold enforceCap DebounceBuffer.enforceCapAux
    split_ifs with hle
    · simp only [← hs.sequence_eq]
    · have hne : b.entries ≠ [] := by rintro h; simp [h] at hle
      obtain ⟨o, ho⟩ := Option.ne_none_iff_exists'.1
        (by simpa [oldestKey_eq hs] using DebounceBuffer.oldestKey_ne_none hne)
      obtain ⟨k, hk⟩ := oldestEntry_mem ho
      have hko : o.metricKey = k := hs.keyed k o hk
      obtain ⟨hpop, hremove⟩ := pop_remove hs (hko ▸ hk)
      rw [oldestKey_eq hs, ho, Option.map_some']
      simp only [hpop, hremove]
      exact ih (hs.sublist (List.filter_sublist _))

/-- `add` stores the merged entry, appending a new key to `_sequence`, then enforces the cap. -/
theorem add_eq {b : SequencedBuffer} (hs : Synced b.entries b.sequence) (c : AddCall) :
    b.add c = enforceCap (addedEntries b.entries c).length
      { b with entries := addedEntries b.entries c, sequence := (addedEntries b.entries c).map Prod.fst } := by
  cases hl : b.entries.lookup c.metricKey with
  | none =>
    have hk : c.metricKey ∉ b.entries.map Prod.fst := lookup_eq_none.1 hl
    simp only [add, addedEntries, hl, Option.getD_none, setItem_setItem, keys_setItem, if_neg hk,
      hs.sequence_eq]
  | some entry =>
    have hk : c.metricKey ∈ b.entries.map Prod.fst :=
      List.mem_map_of_mem Prod.fst (mem_of_lookup_eq_some hl)
    simp only [add, addedEntries, hl, Option.getD_some, keys_setItem, if_pos hk, hs.sequence_eq]

/-- On agreeing lists `add` never raises, keeps the agreement, and does what the dict model's
`add` does. -/
theorem add_refines {b : SequencedBuffer} (hs : Synced b.entries b.sequence) (c : AddCall) :
    (b.add c).1 = .ok () ∧ toBuffer (b.add c).2 = addCall b.toBuffer c ∧
      Synced (b.add c).2.entries (b.add c).2.sequence := by
  rw [add_eq hs c, enforceCap_eq _ (hs.addedEntries c)]
  exact ⟨rfl, rfl, (hs.addedEntries c).sublist (DebounceBuffer.enforceCapAux_sublist _ _ _)⟩

/-- The loop of `flush_due` over entries of the buffer, in dict order: each is popped, its key
removed from `_sequence`, and its payload appended. -/
theorem popReady_eq {b : SequencedBuffer} (hs : Synced b.entries b.sequence)
    {ready : List (String × DebounceEntry)} (h : List.Sublist ready b.entries) (payloads : List FlushedEntry) :
    popReady (ready.map Prod.fst) payloads b = (.ok (payloads ++ ready.map (·.2.flushed)),
      { b with entries := b.entries.filter fun e ↦ e.1 ∉ ready.map Prod.fst
               sequence := (b.entries.filter fun e ↦ e.1 ∉ ready.map Prod.fst).map Prod.fst }) := by
  induction ready generalizing b payloads with
  | nil => simp [popReady, ← hs.sequence_eq]
  | cons x ready ih =>
    obtain ⟨k, e⟩ := x
    have hmem : (k, e) ∈ b.entries := h.subset (List.mem_cons_self _ _)
    have hk : k ∉ ready.map Prod.fst := (List.nodup_cons.1 (hs.nodup.sublist (h.map Prod.fst))).1
    have hrest : List.Sublist ready (b.entries.filter (·.1 != k)) := by
      have hready : ready.filter (·.1 != k) = ready := List.filter_eq_self.2 fun y hy ↦
        bne_iff_ne.2 fun hyk ↦ hk (hyk ▸ List.mem_map_of_mem Prod.fst hy)
      exact hready ▸ ((List.sublist_cons_self _ _).trans h).filter _
    have hfilter : ((b.entries.filter (·.1 != k)).filter fun y ↦ y.1 ∉ ready.map Prod.fst) =
        b.entries.filter fun y ↦ y.1 ∉ k :: ready.map Prod.fst := by
      rw [List.filter_filter]
      exact List.filter_congr fun y _ ↦ by by_cases hy : y.1 = k <;> simp [hy, bne, Bool.and_comm]
    obtain ⟨hpop, hremove⟩ := pop_remove hs hmem
    simp only [List.map_cons, popReady, hpop, hremove]
    rw [ih (hs.sublist (List.filter_sublist _)) hrest, hfilter, List.append_assoc,
      List.singleton_append]

/-- On agreeing lists `flush_due` never raises, keeps the agreement, and hands out and removes
what the dict model's `flush_due` does. -/
theorem flushDue_refines {b : SequencedBuffer} (hs : Synced b.entries b.sequence) (now : ℚ) :
    (b.flushDue now).1 = .ok (b.toBuffer.flushDue now).1 ∧
      toBuffer (b.flushDue now).2 = (b.toBuffer.flushDue now).2 ∧
      Synced (b.flushDue now).2.entries (b.flushDue now).2.sequence := by
  set ready := b.entries.filter fun (_, entry) ↦ b.windowSeconds ≤ now - entry.lastUpdate
  have hsub : List.Sublist ready b.entries := List.filter_sublist _
  have hkeys : List.Sublist (ready.map Prod.fst) b.sequence := hs.sequence_eq ▸ hsub.map Prod.fst
  have hindex := mapM_pyListIndex fun k hk ↦ hkeys.subset hk
  have hsort := sort_by_index (hs.sequence_eq ▸ hs.nodup) hkeys
  have hleft : (b.entries.filter fun e ↦ e.1 ∉ ready.map Prod.fst) =
      b.entries.filter fun (_, entry) ↦ ¬ b.windowSeconds ≤ now - entry.lastUpdate :=
    List.filter_congr fun x hx ↦ by simp [mem_keys_filter_iff hs.nodup hx, ready]
  simp only [flushDue, hindex, hsort, popReady_eq hs hsub, List.nil_append, hleft]
  exact ⟨rfl, by simp [toBuffer, DebounceBuffer.flushDue, ready],
    hs.sublist (List.filter_sublist _)⟩

/-- On agreeing lists, `flush_due` hands out its payloads in `_sequence` order. -/
theorem flushDue_sublist {b : SequencedBuffer} (hs : Synced b.entries b.sequence) (now : ℚ) :
    ∃ payloads, (b.flushDue now).1 = .ok payloads ∧ List.Sublist (payloads.map (·.metric)) b.pendingKeys := by
  have hmetric : (b.toBuffer.flushDue now).1.map (·.metric) =
      (b.entries.filter fun x ↦ b.windowSeconds ≤ now - x.2.lastUpdate).map Prod.fst := by
    simp only [DebounceBuffer.flushDue, List.map_map]
    exact List.map_congr_left fun x hx ↦ hs.keyed x.1 x.2 (List.mem_filter.1 hx).1
  refine ⟨_, (flushDue_refines hs now).1, ?_⟩
  rw [hmetric, pendingKeys, hs.sequence_eq]
  exact (List.filter_sublist _).map _

end SequencedBuffer

/-! ## A ledger of the entries created -/

/-- Keeping the elements of a list without repeats that lie in one of its sublists gives that
sublist. -/
theorem filter_mem_of_sublist {L S : List String} (hL : L.Nodup) (h : List.Sublist S L) :
    L.filter (· ∈ S) = S := by
  induction h with
  | slnil => rfl
  | cons a h ih =>
    obtain ⟨ha, hl⟩ := List.nodup_cons.1 hL
    rw [List.filter_cons_of_neg (by simpa using fun has ↦ ha (h.subset has)), ih hl]
  | cons₂ a h ih =>
    obtain ⟨ha, hl⟩ := List.nodup_cons.1 hL
    rw [List.filter_cons_of_pos (by simp)]
    exact congrArg _ ((List.filter_congr fun x hx ↦ by
      simp only [List.mem_cons, show x ≠ a from fun hxa ↦ ha (hxa ▸ hx), false_or]).trans (ih hl))

/-- The numbered entries whose keys `entries` holds, and the others. -/
def settle (live : List (String × Nat)) (entries : List (String × DebounceEntry)) :
    List (String × Nat) × List (String × Nat) :=
  live.partition fun x ↦ x.1 ∈ entries.map Prod.fst

section Settle

variable {live : List (String × Nat)} {entries entries' : List (String × DebounceEntry)}

@[simp] theorem settle_fst : (settle live entries).1 = live.filter fun x ↦ x.1 ∈ entries.map Prod.fst := by
  simp [settle, List.partition_eq_filter_filter]

theorem settle_sublist : List.Sublist (settle live entries).1 live := by
  simp

@[simp] theorem settle_snd : (settle live entries).2 = live.filter fun x ↦ x.1 ∉ entries.map Prod.fst := by
  simp [settle, List.partition_eq_filter_filter, Function.comp_def]

theorem settle_perm : ((settle live entries').1 ++ (settle live entries').2).Perm live := by
  simpa using List.filter_append_perm _ live

/-- After entries leave the dict, the numbers of those left stand for its keys. -/
theorem settle_keys (hlive : live.map Prod.fst = entries.map Prod.fst) (hd : (entries.map Prod.fst).Nodup)
    (h : List.Sublist entries' entries) :
    (settle live entries').1.map Prod.fst = entries'.map Prod.fst := by
  rw [settle_fst]
  calc (live.filter fun x ↦ x.1 ∈ entries'.map Prod.fst).map Prod.fst
      = (live.map Prod.fst).filter (· ∈ entries'.map Prod.fst) := by rw [List.filter_map]; rfl
    _ = entries'.map Prod.fst := by rw [hlive, filter_mem_of_sublist hd (h.map _)]

/-- The numbers a filter of the dict takes out stand for the keys it drops. -/
theorem settle_filter (hlive : live.map Prod.fst = entries.map Prod.fst) (hd : (entries.map Prod.fst).Nodup)
    (p : String × DebounceEntry → Bool) :
    (settle live (entries.filter fun x ↦ !p x)).2.map Prod.fst = (entries.filter p).map Prod.fst := by
  rw [settle_snd]
  set dropped := (entries.filter fun x ↦ !p x).map Prod.fst
  calc (live.filter fun x ↦ x.1 ∉ dropped).map Prod.fst
      = (live.map Prod.fst).filter (· ∉ dropped) := by rw [List.filter_map]; rfl
    _ = (entries.filter fun x ↦ x.1 ∉ dropped).map Prod.fst := by rw [hlive, List.filter_map]; rfl
    _ = (entries.filter p).map Prod.fst :=
      congrArg _ (List.filter_congr fun x hx ↦ by simp [dropped, mem_keys_filter_iff hd hx])

end Settle

/-- `live` numbers the keys of `entries` in increasing order, and with `others` it holds each
number below `created` once. -/
structure Numbered (live : List (String × Nat)) (entries : List (String × DebounceEntry))
    (others : List (String × Nat)) (created : Nat) : Prop where
  keys : live.map Prod.fst = entries.map Prod.fst
  order : (live.map Prod.snd).Pairwise (· < ·)
  conserved : ((live ++ others).map Prod.snd).Perm (List.range created)

section Numbered

variable {live others : List (String × Nat)} {entries : List (String × DebounceEntry)} {created : Nat}

theorem Numbered.lt (h : Numbered live entries others created) {x : String × Nat} (hx : x ∈ live) :
    x.2 < created :=
  List.mem_range.1 (h.conserved.subset (List.mem_map_of_mem _ (List.mem_append_left _ hx)))

/-- Numbering a new key, appended to the dict. -/
theorem Numbered.append (h : Numbered live entries others created) (key : String) (entry : DebounceEntry) :
    Numbered (live ++ [(key, created)]) (entries ++ [(key, entry)]) others (created + 1) where
  keys := by simp [h.keys]
  order := by
    rw [List.map_append, List.pairwise_append]
    exact ⟨h.order, List.pairwise_singleton _ _, fun a ha b hb ↦ by
      obtain ⟨x, hx, rfl⟩ := List.mem_map.1 ha
      rw [List.mem_singleton.1 hb]; exact h.lt hx⟩
  conserved := by
    rw [List.range_succ, List.append_assoc, List.map_append, List.map_append]
    refine (List.perm_append_comm.append_left _).trans ?_
    simpa [List.map_append] using h.conserved.append_right [created]

/-- After entries leave the dict, the numbers of those left still number it, and the numbers of
those gone join the others. -/
theorem Numbered.settled (h : Numbered live entries others created) (hd : (entries.map Prod.fst).Nodup)
    {entries' : List (String × DebounceEntry)} (hs : List.Sublist entries' entries)
    {others' : List (String × Nat)} (ho : others'.Perm (others ++ (settle live entries').2)) :
    Numbered (settle live entries').1 entries' others' created ∧
      (settle live entries').2.length + entries'.length = entries.length := by
  have hperm : ((settle live entries').1 ++ (settle live entries').2).Perm live := settle_perm
  have hkeys := settle_keys h.keys hd hs
  refine ⟨⟨hkeys, h.order.sublist (settle_sublist.map _), ?_⟩, ?_⟩
  · refine List.Perm.trans (List.Perm.map _ ?_) h.conserved
    refine (ho.append_left _).trans ((List.perm_append_comm.append_left _).trans ?_)
    rw [← List.append_assoc]
    exact hperm.append_right _
  · rw [← List.length_map entries', ← hkeys, List.length_map, ← List.length_map entries, ← h.keys,
      List.length_map, Nat.add_comm, ← List.length_append, hperm.length_eq]

end Numbered

/-- The entries `add` created along a run, numbered in creation order: the numbers of the pending
ones in dict order, of those handed out by a flush and of those the cap dropped.  The code keeps
no such record. -/
structure Ledger where
  created : Nat
  live : List (String × Nat)
  flushed : List (String × Nat)
  evicted : List (String × Nat)

/-- An add of `key`: a key the buffer does not hold gets the next number. -/
def Ledger.number (l : Ledger) (entries : List (String × DebounceEntry)) (key : String) : Ledger :=
  if (entries.lookup key).isSome then l
  else { l with created := l.created + 1, live := l.live ++ [(key, l.created)] }

/-- Entries left the buffer through the cap. -/
def Ledger.evict (l : Ledger) (entries : List (String × DebounceEntry)) : Ledger :=
  { l with live := (settle l.live entries).1, evicted := l.evicted ++ (settle l.live entries).2 }

/-- Entries left the buffer through a flush. -/
def Ledger.flush (l : Ledger) (entries : List (String × DebounceEntry)) : Ledger :=
  { l with live := (settle l.live entries).1, flushed := l.flushed ++ (settle l.live entries).2 }

/-- The buffer with its ledger. -/
structure Traced where
  buffer : SequencedBuffer
  ledger : Ledger

namespace Traced

/-- A new buffer, with nothing created. -/
def initial (windowSeconds : ℚ) (maxEntries : Nat) (windowSeconds_pos : 0 < windowSeconds)
    (maxEntries_pos : 0 < maxEntries) : Traced :=
  ⟨.create windowSeconds maxEntries windowSeconds_pos maxEntries_pos, ⟨0, [], [], []⟩⟩

/-- One call and its result, `[]` for an `add`. -/
def step (t : Traced) : Call → Except String (List FlushedEntry) × Traced
  | .add c =>
    let r := t.buffer.add c
    (r.1.map fun _ ↦ [], ⟨r.2, (t.ledger.number t.buffer.entries c.metricKey).evict r.2.entries⟩)
  | .flushDue now =>
    let r := t.buffer.flushDue now
    (r.1, ⟨r.2, t.ledger.flush r.2.entries⟩)

/-- A run of calls: each call's result, and the final state. -/
def run (t : Traced) : List Call → List (Except String (List FlushedEntry)) × Traced
  | [] => ([], t)
  | call :: calls =>
    let r := t.step call
    let rs := r.2.run calls
    (r.1 :: rs.1, rs.2)

/-- The buffer's lists agree and it is within its cap; the ledger numbers its pending keys and
matches its counters. -/
structure Inv (t : Traced) : Prop where
  synced : Synced t.buffer.entries t.buffer.sequence
  capped : t.buffer.entries.length ≤ t.buffer.maxEntries
  numbered : Numbered t.ledger.live t.buffer.entries (t.ledger.flushed ++ t.ledger.evicted) t.ledger.created
  dropped_eq : t.buffer.dropped = t.ledger.evicted.length
  emitted_eq : t.buffer.emitted = t.ledger.flushed.length

theorem inv_initial (windowSeconds : ℚ) (maxEntries : Nat) (hw : 0 < windowSeconds)
    (hm : 0 < maxEntries) : (initial windowSeconds maxEntries hw hm).Inv :=
  ⟨⟨rfl, List.nodup_nil, fun _ _ h ↦ by cases h⟩, Nat.zero_le _, ⟨rfl, .nil, .nil⟩, rfl, rfl⟩

/-- An `add` returns normally and keeps the invariant; the entries the cap drops move to
`evicted`. -/
theorem Inv.add {t : Traced} (h : t.Inv) (c : AddCall) :
    (t.step (.add c)).1 = .ok [] ∧ (t.step (.add c)).2.ledger.flushed = t.ledger.flushed ∧
      (t.step (.add c)).2.Inv := by
  obtain ⟨hres, hbuf, hsync⟩ := SequencedBuffer.add_refines h.synced c
  set b := (t.buffer.add c).2
  set added := addedEntries t.buffer.entries c
  have hentries : b.entries =
      (DebounceBuffer.enforceCapAux t.buffer.maxEntries added.length (added, t.buffer.dropped)).1 :=
    congrArg DebounceBuffer.entries hbuf
  have hcount : b.dropped + b.entries.length = t.buffer.dropped + added.length := by
    rw [show b.dropped = _ from congrArg DebounceBuffer.dropped hbuf, hentries]
    exact DebounceBuffer.enforceCapAux_count _ _ _ (h.synced.addedEntries c).nodup
  have hmax : b.maxEntries = t.buffer.maxEntries := congrArg DebounceBuffer.maxEntries hbuf
  have hemitted : b.emitted = t.buffer.emitted := congrArg DebounceBuffer.emitted hbuf
  set l := t.ledger.number t.buffer.entries c.metricKey
  have hl : Numbered l.live added (l.flushed ++ l.evicted) l.created ∧ l.flushed = t.ledger.flushed ∧
      l.evicted = t.ledger.evicted := by
    simp only [l, Ledger.number]
    split_ifs with hk
    · obtain ⟨e, he⟩ := Option.isSome_iff_exists.1 hk
      refine ⟨⟨?_, h.numbered.order, h.numbered.conserved⟩, rfl, rfl⟩
      rw [h.numbered.keys, show added = addedEntries t.buffer.entries c from rfl, addedEntries, keys_setItem,
        if_pos (List.mem_map_of_mem Prod.fst (mem_of_lookup_eq_some he))]
    · have hk' := Option.not_isSome_iff_eq_none.1 hk
      rw [show added = addedEntries t.buffer.entries c from rfl, addedEntries, hk',
        setItem_of_not_mem (lookup_eq_none.1 hk')]
      exact ⟨h.numbered.append _ _, rfl, rfl⟩
  have hsub : List.Sublist b.entries added := hentries ▸ DebounceBuffer.enforceCapAux_sublist _ _ _
  obtain ⟨hnum, hlen⟩ := hl.1.settled (h.synced.addedEntries c).nodup hsub
    (List.Perm.of_eq (List.append_assoc l.flushed l.evicted _).symm)
  refine ⟨by simp only [step, hres]; rfl, hl.2.1, hsync, ?_, hnum, ?_, ?_⟩
  · show b.entries.length ≤ b.maxEntries
    rw [hentries, hmax]
    exact DebounceBuffer.enforceCapAux_length_le _ _ _ (Nat.le_add_left _ _)
  · show b.dropped = (l.evicted ++ (settle l.live b.entries).2).length
    rw [List.length_append, hl.2.2, ← h.dropped_eq]
    omega
  · show b.emitted = l.flushed.length
    rw [hemitted, hl.2.1, h.emitted_eq]

/-- A `flush_due` returns normally and keeps the invariant; the entries it hands out move to
`flushed`, in the order of its payloads. -/
theorem Inv.flushDue {t : Traced} (h : t.Inv) (now : ℚ) :
    ∃ payloads, (t.step (.flushDue now)).1 = .ok payloads ∧
      (t.step (.flushDue now)).2.ledger.flushed.map Prod.fst =
        t.ledger.flushed.map Prod.fst ++ payloads.map (·.metric) ∧
      (t.step (.flushDue now)).2.Inv := by
  obtain ⟨hres, hbuf, hsync⟩ := SequencedBuffer.flushDue_refines h.synced now
  set b := (t.buffer.flushDue now).2
  set ready : String × DebounceEntry → Bool := fun x ↦ t.buffer.windowSeconds ≤ now - x.2.lastUpdate
  have hentries : b.entries = t.buffer.entries.filter fun x ↦ !ready x :=
    (congrArg DebounceBuffer.entries hbuf).trans
      (List.filter_congr fun x _ ↦ by simp only [ready, decide_not, SequencedBuffer.toBuffer])
  have hemitted : b.emitted = t.buffer.emitted + (t.buffer.entries.filter ready).length :=
    congrArg DebounceBuffer.emitted hbuf
  have hsub : List.Sublist b.entries t.buffer.entries := hentries ▸ List.filter_sublist _
  have hnum : Numbered (settle t.ledger.live b.entries).1 b.entries
      (t.ledger.flushed ++ (settle t.ledger.live b.entries).2 ++ t.ledger.evicted) t.ledger.created :=
    (h.numbered.settled h.synced.nodup hsub (by
      rw [List.append_assoc, List.append_assoc]; exact List.perm_append_comm.append_left _)).1
  have hgone : (settle t.ledger.live b.entries).2.map Prod.fst = (t.buffer.entries.filter ready).map Prod.fst := by
    rw [hentries]; exact settle_filter h.numbered.keys h.synced.nodup ready
  have hmetric : (t.buffer.entries.filter ready).map (·.2.flushed.metric) =
      (t.buffer.entries.filter ready).map Prod.fst :=
    List.map_congr_left fun x hx ↦ h.synced.keyed x.1 x.2 (List.mem_filter.1 hx).1
  refine ⟨_, hres, ?_, hsync, ?_, hnum, ?_, ?_⟩
  · show (t.ledger.flushed ++ _).map Prod.fst = _
    simp only [List.map_append, hgone, DebounceBuffer.flushDue, List.map_map]
    exact congrArg _ hmetric.symm
  · show b.entries.length ≤ b.maxEntries
    rw [show b.maxEntries = t.buffer.maxEntries from congrArg DebounceBuffer.maxEntries hbuf]
    exact (hsub.length_le).trans h.capped
  · show b.dropped = t.ledger.evicted.length
    rw [← h.dropped_eq]; exact congrArg DebounceBuffer.dropped hbuf
  · show b.emitted = (t.ledger.flushed ++ (settle t.ledger.live b.entries).2).length
    have hlen := congrArg List.length hgone
    simp only [List.length_map] at hlen
    rw [hemitted, List.length_append, h.emitted_eq, hlen]

/-- Every call returns normally and keeps the invariant and the cap; the flushed part of the ledger
grows by the keys of the payloads handed out. -/
theorem Inv.step {t : Traced} (h : t.Inv) (call : Call) :
    ∃ payloads, (t.step call).1 = .ok payloads ∧
      (t.step call).2.ledger.flushed.map Prod.fst = t.ledger.flushed.map Prod.fst ++ payloads.map (·.metric) ∧
      (t.step call).2.buffer.maxEntries = t.buffer.maxEntries ∧ (t.step call).2.Inv := by
  cases call with
  | add c =>
    obtain ⟨hres, hflushed, hinv⟩ := h.add c
    exact ⟨[], hres, by simp [hflushed],
      congrArg DebounceBuffer.maxEntries (SequencedBuffer.add_refines h.synced c).2.1, hinv⟩
  | flushDue now =>
    obtain ⟨payloads, hres, hflushed, hinv⟩ := h.flushDue now
    exact ⟨payloads, hres, hflushed,
      congrArg DebounceBuffer.maxEntries (SequencedBuffer.flushDue_refines h.synced now).2.1, hinv⟩

/-- Along a run, every call returns normally and the invariant holds after each; the payloads
handed out are, key for key, the entries moved to `flushed`. -/
theorem Inv.run {t : Traced} (h : t.Inv) (calls : List Call) :
    ∃ payloads : List (List FlushedEntry), (t.run calls).1 = payloads.map .ok ∧
      (t.run calls).2.ledger.flushed.map Prod.fst =
        t.ledger.flushed.map Prod.fst ++ payloads.flatten.map (·.metric) ∧
      (t.run calls).2.buffer.maxEntries = t.buffer.maxEntries ∧ (t.run calls).2.Inv := by
  induction calls generalizing t with
  | nil => exact ⟨[], rfl, by simp [Traced.run], rfl, h⟩
  | cons call calls ih =>
    obtain ⟨p, hres, hflushed, hmax, hinv⟩ := h.step call
    obtain ⟨ps, hress, hflusheds, hmaxs, hinvs⟩ := ih hinv
    exact ⟨p :: ps, by simp [Traced.run, hres, hress], by simp [Traced.run, hflusheds, hflushed],
      hmaxs.trans hmax, hinvs⟩

end Traced

/-! ## Every run -/

/-- Along every run of `add` and `flush_due` calls on a new buffer, with any timestamps, every
call returns normally, so `_sequence.index`, `_sequence.remove` and `pop` never raise.  After each
call the buffer holds at most `max_entries` entries, and `pending_keys()` lists the dict's keys,
each once, in the order their entries were created.  Every entry created is pending, handed out
by a flush, or dropped by the cap, exactly one of these; the payloads handed out are, one for one,
the entries flushed, and `dropped` counts the entries dropped.  The next `flush_due` hands out its
payloads in `pending_keys()` order. -/
theorem debounce_run_conserves_entries (windowSeconds : ℚ) (maxEntries : Nat) (hw : 0 < windowSeconds)
    (hm : 0 < maxEntries) (calls : List Call) :
    let run := (Traced.initial windowSeconds maxEntries hw hm).run calls
    let b := run.2.buffer
    let l := run.2.ledger
    ∃ payloads : List (List FlushedEntry), run.1 = payloads.map .ok ∧
      b.entries.length ≤ maxEntries ∧
      b.pendingKeys = b.entries.map Prod.fst ∧ b.pendingKeys.Nodup ∧
      l.live.map Prod.fst = b.pendingKeys ∧ (l.live.map Prod.snd).Pairwise (· < ·) ∧
      ((l.live ++ l.flushed ++ l.evicted).map Prod.snd).Perm (List.range l.created) ∧
      l.flushed.map Prod.fst = payloads.flatten.map (·.metric) ∧
      b.dropped = l.evicted.length ∧
      ∀ now, ∃ out, (b.flushDue now).1 = .ok out ∧ List.Sublist (out.map (·.metric)) b.pendingKeys := by
  obtain ⟨payloads, hres, hflushed, hmax, h⟩ := (Traced.inv_initial windowSeconds maxEntries hw hm).run calls
  refine ⟨payloads, hres, h.capped.trans (le_of_eq hmax), h.synced.sequence_eq,
    by rw [SequencedBuffer.pendingKeys, h.synced.sequence_eq]; exact h.synced.nodup,
    h.numbered.keys.trans h.synced.sequence_eq.symm, h.numbered.order, ?_, by simpa using hflushed,
    h.dropped_eq, fun now ↦ SequencedBuffer.flushDue_sublist h.synced now⟩
  simpa using h.numbered.conserved

/-- An add of `key` at timestamp `timestamp`, with an empty diff. -/
def keyAdd (key : String) (timestamp : ℚ) : AddCall := ⟨key, [], none, none, none, timestamp, none⟩

/-- Three keys into a buffer of two, a re-add of the first, and a flush. -/
def threeKeyCalls : List Call :=
  [.add (keyAdd "a" 0), .add (keyAdd "b" 1), .add (keyAdd "c" 2), .add (keyAdd "a" 3), .flushDue 400]

theorem three_keys_accounted :
    0 < (180 : ℚ) ∧ 0 < 2 ∧
      let run := (Traced.initial 180 2 (by with_unfolding_all decide) (by decide)).run threeKeyCalls
      run.2.buffer.entries.length ≤ 2 ∧
        ((run.2.ledger.live ++ run.2.ledger.flushed ++ run.2.ledger.evicted).map Prod.snd).Perm
          (List.range run.2.ledger.created) ∧
        run.2.buffer.dropped = run.2.ledger.evicted.length := by
  obtain ⟨_, -, hcap, -, -, -, -, hperm, -, hdropped, -⟩ :=
    debounce_run_conserves_entries 180 2 (by with_unfolding_all decide) (by decide) threeKeyCalls
  exact ⟨by with_unfolding_all decide, by decide, hcap, hperm, hdropped⟩

end UnsMetadataSync.Cdc.DebounceSequence
