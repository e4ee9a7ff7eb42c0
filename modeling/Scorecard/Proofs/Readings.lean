import Scorecard.Readings
import Scorecard.Proofs.Datum
import Scorecard.Proofs.Sequence
import Scorecard.Proofs.Text.Case
import Mathlib.Data.List.Find
import Mathlib.Data.List.Nodup

/-!
# Readings

Readings that are made of the entries of a mapping are well formed: each has its own key, which is
its id in lower case. Their ids are not blank and their numbers are finite. If the entries have
different keys already, each makes its own reading, and their order is the only thing that the
readings take from the order of the mapping. The number of a KPI comes from the entries for that KPI
alone.
-/

namespace Scorecard

open Text (fold lower trim)

/-- What holds of all readings that are made of a mapping. -/
structure Readings.WellFormed (r : Readings) : Prop where
  /-- Each reading is kept under its id in lower case. -/
  key : ∀ reading ∈ r.entries, reading.key = lower reading.id
  /-- No id has white space around it. -/
  trimmed : ∀ reading ∈ r.entries, trim reading.id = reading.id
  /-- No two readings have one key. -/
  distinct : (r.entries.map (·.key)).Nodup

/-- A reading with an id whose number, if there is one, is finite. -/
structure Reading.Sound (reading : Reading) : Prop where
  /-- The id is not empty. -/
  named : reading.id ≠ ""
  /-- The number, if there is one, is finite. -/
  finite : ∀ x, reading.value = some x → x.isFinite = true

/-- The reading that one entry makes; nothing for a blank id. -/
def Reading.ofPair? (name : String) (raw : Datum) : Except Fault (Option Reading) :=
  if (trim name).isEmpty then .ok none
  else raw.number?.map fun value => some ⟨fold name, trim name, value⟩

theorem Reading.ofPair?_key {name : String} {raw : Datum} {reading : Reading}
    (h : ofPair? name raw = .ok (some reading)) :
    reading.key = fold name ∧ reading.id = trim name := by
  rw [ofPair?] at h
  split at h
  · simp at h
  · obtain ⟨value, -, h⟩ := map_eq_ok_iff.1 h
    obtain rfl := Option.some.inj h
    exact ⟨rfl, rfl⟩

namespace Readings

/-! ## Recording -/

/-- Recording under a key sets the reading of that key or adds one, and leaves the others. -/
theorem mem_record {key id : String} {value : Option Float} {entries : List Reading}
    {reading : Reading} (h : reading ∈ record key id value entries) :
    reading ∈ entries ∨ reading.key = key ∧
      (reading.id = id ∨ ∃ old ∈ entries, old.key = key ∧ reading.id = old.id) := by
  induction entries with
  | nil =>
    rw [record, List.mem_singleton] at h
    exact .inr (h ▸ ⟨rfl, .inl rfl⟩)
  | cons r rest ih =>
    rw [record] at h
    split at h
    · rename_i hkey
      rcases List.mem_cons.1 h with rfl | h
      · exact .inr ⟨rfl, .inr ⟨r, List.mem_cons_self, hkey, rfl⟩⟩
      · exact .inl (List.mem_cons_of_mem r h)
    · rcases List.mem_cons.1 h with rfl | h
      · exact .inl List.mem_cons_self
      · rcases ih h with h | ⟨hkey, h | ⟨old, hold, h⟩⟩
        · exact .inl (List.mem_cons_of_mem r h)
        · exact .inr ⟨hkey, .inl h⟩
        · exact .inr ⟨hkey, .inr ⟨old, List.mem_cons_of_mem r hold, h⟩⟩

theorem record_of_notMem {key : String} (id : String) (value : Option Float)
    {entries : List Reading} (h : key ∉ entries.map (·.key)) :
    record key id value entries = entries ++ [⟨key, id, value⟩] := by
  induction entries with
  | nil => rfl
  | cons r rest ih =>
    rw [List.map_cons, List.mem_cons, not_or] at h
    rw [record, if_neg (Ne.symm h.1), ih h.2, List.cons_append]

/-- The keys stay as they are, or the new one comes last. -/
theorem keys_record (key id : String) (value : Option Float) (entries : List Reading) :
    (record key id value entries).map (·.key) =
      if key ∈ entries.map (·.key) then entries.map (·.key) else entries.map (·.key) ++ [key] := by
  split
  · rename_i h
    induction entries with
    | nil => simp at h
    | cons r rest ih =>
      rw [record]
      split
      · rename_i hkey
        rw [List.map_cons, List.map_cons, hkey]
      · rename_i hkey
        rw [List.map_cons, List.mem_cons] at h
        rw [List.map_cons, List.map_cons, ih (h.resolve_left (Ne.symm hkey))]
  · rename_i h
    rw [record_of_notMem id value h, List.map_append]
    rfl

theorem WellFormed.record {r : Readings} (h : r.WellFormed) {id : String} (hid : trim id = id)
    (value : Option Float) : WellFormed ⟨record (lower id) id value r.entries⟩ where
  key := by
    intro reading hmem
    rcases mem_record hmem with hmem | ⟨hkey, hnew | ⟨old, hold, hkey', hid'⟩⟩
    · exact h.key reading hmem
    · rw [hkey, hnew]
    · rw [hkey, hid', ← h.key old hold, hkey']
  trimmed := by
    intro reading hmem
    rcases mem_record hmem with hmem | ⟨-, hnew | ⟨old, hold, -, hid'⟩⟩
    · exact h.trimmed reading hmem
    · rw [hnew, hid]
    · rw [hid', h.trimmed old hold]
  distinct := by
    rw [keys_record]
    split
    · exact h.distinct
    · rename_i hnew
      refine List.nodup_append.2 ⟨h.distinct, List.nodup_singleton _, ?_⟩
      rintro key hkey _ hlast rfl
      exact hnew (List.mem_singleton.1 hlast ▸ hkey)

/-! ## The readings of a mapping -/

theorem WellFormed.add {r r' : Readings} (h : r.WellFormed) {name : String} {raw : Datum}
    (hadd : r.add name raw = .ok r') : r'.WellFormed := by
  unfold Readings.add at hadd
  dsimp only at hadd
  split at hadd
  · obtain rfl := Except.ok.inj hadd
    exact h
  · obtain ⟨value, -, rfl⟩ := map_eq_ok_iff.1 hadd
    exact h.record (Text.trim_trim name) value

theorem WellFormed.empty : WellFormed .empty where
  key := fun _ h => absurd h List.not_mem_nil
  trimmed := fun _ h => absurd h List.not_mem_nil
  distinct := List.nodup_nil

/-- What holds of readings after every single entry holds after all of them. -/
theorem addAll_invariant {P : Readings → Prop} {entries : List (String × Datum)}
    {start r : Readings} (hstart : P start)
    (hstep : ∀ before after name raw, P before → before.add name raw = .ok after → P after)
    (h : entries.foldlM (fun r (name, raw) => r.add name raw) start = .ok r) : P r := by
  induction entries generalizing start with
  | nil =>
    obtain rfl := Except.ok.inj h
    exact hstart
  | cons e rest ih =>
    rw [List.foldlM_cons] at h
    obtain ⟨next, hnext, hrest⟩ := bind_eq_ok_iff.1 h
    exact ih (hstep _ _ _ _ hstart hnext) hrest

/-- The readings of every mapping are well formed. -/
theorem WellFormed.ofEntries {entries : List (String × Datum)} {r : Readings}
    (h : Readings.ofEntries entries = .ok r) : r.WellFormed :=
  addAll_invariant .empty (fun _ _ _ _ hbefore hnext => hbefore.add hnext) h

theorem WellFormed.distinct_ids {r : Readings} (h : r.WellFormed) :
    ((r.entries.map (·.id)).map lower).Nodup := by
  have hkeys : r.entries.map (·.key) = (r.entries.map (·.id)).map lower := by
    rw [List.map_map]
    exact List.map_congr_left h.key
  rw [← hkeys]
  exact h.distinct

/-- Adding an entry with a new key is appending the reading that it makes. -/
theorem add_of_notMem {r : Readings} {name : String} (raw : Datum)
    (h : fold name ∉ r.entries.map (·.key)) :
    r.add name raw =
      (Reading.ofPair? name raw).map fun reading => ⟨r.entries ++ reading.toList⟩ := by
  unfold Readings.add Reading.ofPair?
  dsimp only
  split
  · rw [Except.map, Option.toList_none, List.append_nil]
  · cases raw.number? with
    | error e => rfl
    | ok value =>
      have hrecord := record_of_notMem (trim name) value h
      exact congrArg (fun entries => Except.ok (⟨entries⟩ : Readings)) hrecord

theorem addAll_of_nodup {entries : List (String × Datum)} {start : Readings}
    (h : (start.entries.map (·.key) ++ entries.map fun e => fold e.1).Nodup) :
    entries.foldlM (fun r (name, raw) => r.add name raw) start =
      (entries.mapM fun e => Reading.ofPair? e.1 e.2).map fun rs =>
        ⟨start.entries ++ rs.filterMap id⟩ := by
  induction entries generalizing start with
  | nil => simp [Except.map, pure, Except.pure]
  | cons e rest ih =>
    obtain ⟨name, raw⟩ := e
    rw [List.map_cons] at h
    have hnew : fold name ∉ start.entries.map (·.key) := fun hmem =>
      (List.nodup_append.1 h).2.2 _ hmem _ List.mem_cons_self rfl
    rw [List.foldlM_cons, List.mapM_cons]
    dsimp only
    rw [add_of_notMem raw hnew]
    cases hentry : Reading.ofPair? name raw with
    | error e => rfl
    | ok reading =>
      simp only [Except.map, bind, Except.bind]
      rw [ih]
      · cases rest.mapM fun e => Reading.ofPair? e.1 e.2 with
        | error e => rfl
        | ok rs => cases reading <;> simp [Except.map, pure, Except.pure]
      · cases reading with
        | none =>
          rw [Option.toList_none, List.append_nil]
          exact h.sublist ((List.Sublist.refl _).append (List.sublist_cons_self _ _))
        | some reading =>
          rw [List.append_cons] at h
          simpa [(Reading.ofPair?_key hentry).1] using h

/-- Entries with different keys each make their own reading. -/
theorem ofEntries_of_nodup {entries : List (String × Datum)}
    (h : (entries.map fun e => fold e.1).Nodup) :
    ofEntries entries =
      (entries.mapM fun e => Reading.ofPair? e.1 e.2).map fun rs => ⟨rs.filterMap id⟩ :=
  addAll_of_nodup h

/-! ## What a reading holds -/

theorem sound_record {key id : String} {value : Option Float} {entries : List Reading}
    (hentries : ∀ reading ∈ entries, reading.Sound) (hid : id ≠ "")
    (hvalue : ∀ x, value = some x → x.isFinite = true) :
    ∀ reading ∈ record key id value entries, reading.Sound := by
  induction entries with
  | nil =>
    intro reading hmem
    obtain rfl := List.mem_singleton.1 hmem
    exact ⟨hid, hvalue⟩
  | cons r rest ih =>
    obtain ⟨hr, hrest⟩ := List.forall_mem_cons.1 hentries
    rw [record]
    split
    · exact List.forall_mem_cons.2 ⟨⟨hr.named, hvalue⟩, hrest⟩
    · exact List.forall_mem_cons.2 ⟨hr, ih hrest⟩

theorem sound_add {before after : Readings} {name : String} {raw : Datum}
    (hbefore : ∀ reading ∈ before.entries, reading.Sound) (h : before.add name raw = .ok after) :
    ∀ reading ∈ after.entries, reading.Sound := by
  unfold add at h
  dsimp only at h
  split at h
  · obtain rfl := Except.ok.inj h
    exact hbefore
  · rename_i hblank
    obtain ⟨value, hvalue, rfl⟩ := map_eq_ok_iff.1 h
    have hid : trim name ≠ "" := fun hempty => hblank (String.isEmpty_iff.2 hempty)
    refine sound_record hbefore hid fun x hx => ?_
    rw [hx] at hvalue
    exact Datum.number?_isFinite hvalue

/-- Every reading of a mapping has an id, and its number is finite. -/
theorem sound_ofEntries {entries : List (String × Datum)} {r : Readings}
    (h : ofEntries entries = .ok r) : ∀ reading ∈ r.entries, reading.Sound :=
  addAll_invariant (P := fun r => ∀ reading ∈ r.entries, reading.Sound)
    (fun _ hmem => absurd hmem List.not_mem_nil)
    (fun _ _ _ _ hbefore hnext => sound_add hbefore hnext) h

/-! ## Addressing -/

/-- Readings are addressed in any letter case. -/
theorem find?_respelled (r : Readings) {a b : String} (h : lower a = lower b) :
    r.find? a = r.find? b := by
  rw [find?, find?, Text.fold_congr h]

/-- The entries of a mapping in another order make the same readings in another order. -/
theorem ofEntries_perm {entries entries' : List (String × Datum)} (hperm : entries.Perm entries')
    (hkeys : (entries.map fun e => fold e.1).Nodup) {r : Readings}
    (h : ofEntries entries = .ok r) :
    ∃ r', ofEntries entries' = .ok r' ∧ r.entries.Perm r'.entries := by
  rw [ofEntries_of_nodup hkeys] at h
  obtain ⟨rs, hrs, rfl⟩ := map_eq_ok_iff.1 h
  obtain ⟨rs', hrs', hperm'⟩ := mapM_perm hperm hrs
  refine ⟨⟨rs'.filterMap id⟩, ?_, hperm'.filterMap id⟩
  rw [ofEntries_of_nodup ((hperm.map _).nodup hkeys), hrs']
  rfl

/-- A name addresses the same reading in whatever order the readings are. -/
theorem WellFormed.find?_perm {r r' : Readings} (h : r.WellFormed)
    (hperm : r.entries.Perm r'.entries) : r.find? = r'.find? := by
  funext name
  refine List.find?_eq_find?_of_perm hperm fun a ha b hb => ?_
  have hkey : a.key = b.key := (of_decide_eq_true ha.2).trans (of_decide_eq_true hb.2).symm
  exact List.inj_on_of_nodup_map h.distinct ha.1 hb.1 hkey

/-! ## The reading of one KPI -/

/-- Recording gives a KPI its number, and a spelling if it had none; the others stay. -/
theorem find?_record (key id : String) (value : Option Float) (entries : List Reading)
    (k : String) :
    ((record key id value entries).find? (·.key = k)).map (fun r => (r.id, r.value)) =
      if k = key then some (((entries.find? (·.key = k)).map (·.id)).getD id, value)
      else (entries.find? (·.key = k)).map fun r => (r.id, r.value) := by
  induction entries with
  | nil =>
    by_cases hk : k = key
    · simp [record, hk]
    · simp [record, hk, Ne.symm hk]
  | cons r rest ih =>
    rw [record]
    by_cases hr : r.key = key
    · by_cases hk : k = key
      · simp [hr, hk]
      · simp [hr, hk, Ne.symm hk]
    · rw [if_neg hr]
      by_cases hfound : r.key = k
      · have hk : ¬ k = key := fun h => hr (hfound.trans h)
        simp [hfound, hk]
      · simpa [hfound] using ih

/-- Recording sets the number of one KPI and leaves the others. -/
theorem value?_record (key id : String) (value : Option Float) (entries : List Reading)
    (name : String) : value? ⟨record key id value entries⟩ name =
      if fold name = key then value else value? ⟨entries⟩ name := by
  have hvalue (r : Readings) :
      r.value? name =
        ((r.find? name).map fun reading => (reading.id, reading.value)).bind (·.2) := by
    rw [Option.bind_map]
    rfl
  rw [hvalue, find?, find?_record, hvalue, find?]
  split <;> rfl

theorem value?_add {r r' : Readings} {name : String} {raw : Datum} (h : r.add name raw = .ok r')
    {id : String} (hid : fold name ≠ fold id) : r'.value? id = r.value? id := by
  unfold add at h
  dsimp only at h
  split at h
  · obtain rfl := Except.ok.inj h
    rfl
  · obtain ⟨value, -, rfl⟩ := map_eq_ok_iff.1 h
    rw [value?_record]
    exact if_neg (Ne.symm hid)

theorem value?_add_same {start start₁ r : Readings} {name : String} {raw : Datum} {id : String}
    (hstart : start.value? id = start₁.value? id) (h : start.add name raw = .ok r) :
    ∃ r₁, start₁.add name raw = .ok r₁ ∧ r.value? id = r₁.value? id := by
  unfold add at h ⊢
  dsimp only at h ⊢
  by_cases hblank : (trim name).isEmpty = true
  · rw [if_pos hblank] at h ⊢
    obtain rfl := Except.ok.inj h
    exact ⟨start₁, rfl, hstart⟩
  · rw [if_neg hblank] at h ⊢
    obtain ⟨value, hvalue, rfl⟩ := map_eq_ok_iff.1 h
    refine ⟨_, map_eq_ok_iff.2 ⟨value, hvalue, rfl⟩, ?_⟩
    rw [value?_record, value?_record]
    split
    · rfl
    · exact hstart

/-- The entries for other KPIs can be left out without a change to the number of one KPI. -/
theorem value?_addAll_filter {entries : List (String × Datum)} {start start₁ r : Readings}
    {id : String} (hstart : start.value? id = start₁.value? id)
    (h : entries.foldlM (fun r (name, raw) => r.add name raw) start = .ok r) :
    ∃ r₁, (entries.filter fun e => fold e.1 = fold id).foldlM
      (fun r (name, raw) => r.add name raw) start₁ = .ok r₁ ∧ r.value? id = r₁.value? id := by
  induction entries generalizing start start₁ with
  | nil =>
    obtain rfl := Except.ok.inj h
    exact ⟨start₁, rfl, hstart⟩
  | cons e rest ih =>
    obtain ⟨name, raw⟩ := e
    rw [List.foldlM_cons] at h
    obtain ⟨next, hnext, hrest⟩ := bind_eq_ok_iff.1 h
    by_cases hname : fold name = fold id
    · obtain ⟨next₁, hnext₁, hvalue⟩ := value?_add_same hstart hnext
      obtain ⟨r₁, hr₁, hvalue₁⟩ := ih hvalue hrest
      rw [List.filter_cons_of_pos (by simpa using hname), List.foldlM_cons]
      exact ⟨r₁, bind_eq_ok_iff.2 ⟨next₁, hnext₁, hr₁⟩, hvalue₁⟩
    · rw [List.filter_cons_of_neg (by simpa using hname)]
      exact ih ((value?_add hnext hname).trans hstart) hrest

/-- The number of a KPI comes from the entries for that KPI and no others. -/
theorem value?_ofEntries_congr {entries entries' : List (String × Datum)} {r r' : Readings}
    (h : ofEntries entries = .ok r) (h' : ofEntries entries' = .ok r') {id : String}
    (hentries : entries.filter (fun e => fold e.1 = fold id) =
      entries'.filter fun e => fold e.1 = fold id) : r.value? id = r'.value? id := by
  obtain ⟨r₁, hr₁, hvalue⟩ := value?_addAll_filter rfl h
  obtain ⟨r₂, hr₂, hvalue'⟩ := value?_addAll_filter rfl h'
  rw [hentries, hr₂] at hr₁
  obtain rfl := Except.ok.inj hr₁
  rw [hvalue, hvalue']

end Readings

end Scorecard
