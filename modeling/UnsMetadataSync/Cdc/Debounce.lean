import UnsMetadataSync.Json
import Mathlib.Algebra.Order.Ring.Rat

/-!
# The debounce buffer

`cdc/debounce.py` holds one entry per metric key and merges every diff of the key into it.  An
entry is flushed once `window_seconds` have passed since its last update; when more than
`max_entries` keys are pending, the entry with the oldest update is dropped and counted.

The buffer's counters are the two its service reads, `dropped` and `emitted`; its entries keep
the extras the service passes, `metric_id`, `canary_id` and `changed_at`.
-/

namespace UnsMetadataSync.Cdc.Debounce

open Json

/-- The extras the service attaches to an entry; `changedAt` is the formatted timestamp. -/
structure Extras where
  metricId : Int
  canaryId : String
  changedAt : String

/-- `DebounceEntry`. -/
structure DebounceEntry where
  metricKey : String
  firstSeen : ℚ
  lastUpdate : ℚ
  payload : List (String × JsonValue)
  version : Option Int
  actor : Option String
  eventIds : List String
  extras : Option Extras

/-- `DebounceEntry.merge`. -/
def DebounceEntry.merge (entry : DebounceEntry) (diff : List (String × JsonValue))
    (version : Option Int) (actor : Option String) (eventId : Option String) (timestamp : ℚ)
    (extras : Option Extras) : DebounceEntry :=
  { entry with
    payload := diff.foldl (fun payload (key, value) ↦ setItem payload key value) entry.payload
    version := match version, entry.version with
      | some v, some current => if current ≤ v then some v else some current
      | some v, none => some v
      | none, current => current
    actor := match actor with
      | some a => if a.isEmpty then entry.actor else some a
      | none => entry.actor
    eventIds := match eventId with
      | some e => if e.isEmpty ∨ e ∈ entry.eventIds then entry.eventIds else entry.eventIds ++ [e]
      | none => entry.eventIds
    lastUpdate := timestamp
    extras := extras.orElse fun _ ↦ entry.extras }

/-- The dict `flush_due` returns for an entry; `eventIds` is `sorted(entry.event_ids)`. -/
structure FlushedEntry where
  metric : String
  diff : List (String × JsonValue)
  version : Option Int
  actor : Option String
  firstSeen : ℚ
  lastUpdate : ℚ
  eventIds : List String
  extras : Option Extras

/-- The entry as `flush_due` hands it out. -/
def DebounceEntry.flushed (entry : DebounceEntry) : FlushedEntry :=
  ⟨entry.metricKey, entry.payload, entry.version, entry.actor, entry.firstSeen, entry.lastUpdate,
    entry.eventIds.mergeSort (fun a b ↦ decide (a ≤ b)), entry.extras⟩

/-- `DebounceBuffer`: its settings, checked positive by the constructor, the entries in
insertion order, and the counters `dropped` and `emitted`. -/
structure DebounceBuffer where
  windowSeconds : ℚ
  maxEntries : Nat
  entries : List (String × DebounceEntry)
  dropped : Nat
  emitted : Nat
  windowSeconds_pos : 0 < windowSeconds
  maxEntries_pos : 0 < maxEntries

namespace DebounceBuffer

/-- A new, empty buffer. -/
def create (windowSeconds : ℚ) (maxEntries : Nat) (windowSeconds_pos : 0 < windowSeconds)
    (maxEntries_pos : 0 < maxEntries) : DebounceBuffer :=
  ⟨windowSeconds, maxEntries, [], 0, 0, windowSeconds_pos, maxEntries_pos⟩

/-- The key of the entry with the oldest update; `min` keeps the first of equal ones. -/
def oldestKey : List (String × DebounceEntry) → Option String
  | [] => none
  | (key, entry) :: rest =>
    match oldestKey rest with
    | none => some key
    | some other =>
      if ((rest.lookup other).map (·.lastUpdate)).all (entry.lastUpdate ≤ ·) then some key else some other

/-- `_enforce_cap`: drop the oldest entries while there are too many.  Each round removes one
entry, so `fuel = entries.length` rounds suffice. -/
def enforceCapAux (maxEntries : Nat) : Nat → List (String × DebounceEntry) × Nat →
    List (String × DebounceEntry) × Nat
  | 0, acc => acc
  | fuel + 1, (entries, dropped) =>
    if entries.length ≤ maxEntries then (entries, dropped)
    else match oldestKey entries with
      | none => (entries, dropped)
      | some key => enforceCapAux maxEntries fuel (entries.filter (·.1 != key), dropped + 1)

def enforceCap (b : DebounceBuffer) : DebounceBuffer :=
  let (entries, dropped) := enforceCapAux b.maxEntries b.entries.length (b.entries, b.dropped)
  { b with entries, dropped }

/-- `_enforce_cap` only removes entries. -/
theorem enforceCapAux_sublist (maxEntries : Nat) :
    ∀ fuel (acc : List (String × DebounceEntry) × Nat), List.Sublist (enforceCapAux maxEntries fuel acc).1 acc.1
  | 0, _ => List.Sublist.refl _
  | fuel + 1, (entries, dropped) => by
    unfold enforceCapAux
    split_ifs
    · exact List.Sublist.refl _
    · split
      · exact List.Sublist.refl _
      · exact (enforceCapAux_sublist maxEntries fuel _).trans (List.filter_sublist _)

theorem enforceCap_sublist (b : DebounceBuffer) : List.Sublist b.enforceCap.entries b.entries :=
  enforceCapAux_sublist _ _ _

/-- The oldest key is a key of the dict. -/
theorem oldestKey_mem {entries : List (String × DebounceEntry)} {key : String}
    (h : oldestKey entries = some key) : key ∈ entries.map Prod.fst := by
  induction entries with
  | nil => cases h
  | cons e rest ih =>
    rw [List.map_cons, List.mem_cons]
    unfold oldestKey at h
    split at h
    · exact .inl (Option.some.inj h).symm
    · rename_i other hother
      split_ifs at h
      · exact .inl (Option.some.inj h).symm
      · cases h; exact .inr (ih hother)

theorem oldestKey_ne_none {entries : List (String × DebounceEntry)} (h : entries ≠ []) :
    oldestKey entries ≠ none := by
  obtain ⟨⟨key, entry⟩, rest, rfl⟩ := List.exists_cons_of_ne_nil h
  unfold oldestKey
  split <;> [simp; (split_ifs <;> simp)]

/-- Enough rounds of `_enforce_cap` bring the dict down to `max_entries`. -/
theorem enforceCapAux_length_le (maxEntries : Nat) :
    ∀ fuel (acc : List (String × DebounceEntry) × Nat), acc.1.length ≤ maxEntries + fuel →
      (enforceCapAux maxEntries fuel acc).1.length ≤ maxEntries
  | 0, _, h => h
  | fuel + 1, (entries, dropped), h => by
    unfold enforceCapAux
    split_ifs with hle
    · exact hle
    · have hne : entries ≠ [] := by rintro rfl; simp at hle
      obtain ⟨key, hkey⟩ := Option.ne_none_iff_exists'.1 (oldestKey_ne_none hne)
      rw [hkey]
      apply enforceCapAux_length_le maxEntries fuel
      have hlt : (entries.filter (·.1 != key)).length < entries.length := by
        obtain ⟨e, he, rfl⟩ := List.mem_map.1 (oldestKey_mem hkey)
        exact List.length_filter_lt_length_iff_exists.2 ⟨e, he, by simp⟩
      simp only at h ⊢
      omega

/-- Each round of `_enforce_cap` drops one entry and counts it. -/
theorem enforceCapAux_count (maxEntries : Nat) :
    ∀ fuel (acc : List (String × DebounceEntry) × Nat), (acc.1.map Prod.fst).Nodup →
      (enforceCapAux maxEntries fuel acc).2 + (enforceCapAux maxEntries fuel acc).1.length =
        acc.2 + acc.1.length
  | 0, _, _ => rfl
  | fuel + 1, (entries, dropped), hd => by
    unfold enforceCapAux
    split_ifs
    · rfl
    · split
      · rfl
      · rename_i key hkey
        have hlen : (entries.filter (·.1 != key)).length + 1 = entries.length := by
          rw [← List.length_map _ Prod.fst, keys_filter_key hd,
            List.length_erase_of_mem (oldestKey_mem hkey), List.length_map]
          have := List.length_pos_of_mem (oldestKey_mem hkey)
          simp only [List.length_map] at this
          omega
        rw [enforceCapAux_count maxEntries fuel _ (hd.sublist ((List.filter_sublist _).map _))]
        simp only
        omega

@[simp] theorem enforceCap_windowSeconds (b : DebounceBuffer) :
    b.enforceCap.windowSeconds = b.windowSeconds := rfl

/-- `add`, with the clock reading `now` as the timestamp. -/
def add (b : DebounceBuffer) (metricKey : String) (diff : List (String × JsonValue))
    (version : Option Int) (actor : Option String) (eventId : Option String) (now : ℚ)
    (extras : Option Extras) : DebounceBuffer :=
  let entry := (b.entries.lookup metricKey).getD ⟨metricKey, now, now, [], none, none, [], none⟩
  let entry := entry.merge diff version actor eventId now extras
  enforceCap { b with entries := setItem b.entries metricKey entry }

@[simp] theorem add_windowSeconds (b : DebounceBuffer) (metricKey : String)
    (diff : List (String × JsonValue)) (version : Option Int) (actor eventId : Option String)
    (now : ℚ) (extras : Option Extras) :
    (b.add metricKey diff version actor eventId now extras).windowSeconds = b.windowSeconds := rfl

/-- `flush_due(now=current)`: the entries whose window has passed, in insertion order. -/
def flushDue (b : DebounceBuffer) (current : ℚ) : List FlushedEntry × DebounceBuffer :=
  let ready := b.entries.filter fun (_, entry) ↦ b.windowSeconds ≤ current - entry.lastUpdate
  (ready.map (DebounceEntry.flushed ·.2),
    { b with entries := b.entries.filter fun (_, entry) ↦ ¬ b.windowSeconds ≤ current - entry.lastUpdate
             emitted := b.emitted + ready.length })

end DebounceBuffer

end UnsMetadataSync.Cdc.Debounce
