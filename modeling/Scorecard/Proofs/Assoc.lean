import Scorecard.Assoc
import Scorecard.Proofs.FirstSeen
import Mathlib.Data.List.Perm.Basic

/-!
# Maps with distinct keys

In a list of entries with distinct keys every entry is found under its key, so the order of the
entries does not matter, and building a map from them changes nothing. Of several entries with one
key, a map that is built from them holds the last.
-/

namespace Scorecard.Assoc

variable {κ α : Type} [BEq κ] [LawfulBEq κ]

theorem lookup_eq_some_iff_mem {m : List (κ × α)} (h : (m.map Prod.fst).Nodup) {k : κ} {v : α} :
    m.lookup k = some v ↔ (k, v) ∈ m := by
  rw [List.lookup_eq_some_iff]
  constructor
  · rintro ⟨l₁, l₂, rfl, -⟩
    exact List.mem_append_right _ List.mem_cons_self
  · intro hmem
    obtain ⟨l₁, l₂, rfl⟩ := List.append_of_mem hmem
    refine ⟨l₁, l₂, rfl, fun p hp => bne_iff_ne.2 fun hk => ?_⟩
    rw [List.map_append, List.map_cons] at h
    exact (List.nodup_append.1 h).2.2 p.1 (List.mem_map_of_mem hp) k List.mem_cons_self hk.symm

/-- The order of entries with distinct keys does not matter. -/
theorem lookup_perm {m m' : List (κ × α)} (hperm : m.Perm m') (h : (m.map Prod.fst).Nodup)
    (k : κ) : m.lookup k = m'.lookup k := by
  have h' : (m'.map Prod.fst).Nodup := (hperm.map Prod.fst).nodup h
  ext v
  rw [lookup_eq_some_iff_mem h, lookup_eq_some_iff_mem h', hperm.mem_iff]

/-! ## Building a map -/

theorem put_of_notMem {key : κ} (value : α) {m : List (κ × α)} (h : key ∉ m.map Prod.fst) :
    put key value m = m ++ [(key, value)] := by
  induction m with
  | nil => rfl
  | cons e rest ih =>
    rw [List.map_cons, List.mem_cons, not_or] at h
    have hne : ¬ (e.1 == key) = true := fun he => h.1 (beq_iff_eq.1 he).symm
    rw [put, if_neg hne, ih h.2, List.cons_append]

/-- Entries with new keys go to the end of a map, one after the other. -/
theorem foldl_put_of_nodup {m rest : List (κ × α)} (h : ((m ++ rest).map Prod.fst).Nodup) :
    rest.foldl (fun m (key, value) => put key value m) m = m ++ rest := by
  induction rest generalizing m with
  | nil => rw [List.foldl_nil, List.append_nil]
  | cons e rest ih =>
    obtain ⟨key, value⟩ := e
    have hnew : key ∉ m.map Prod.fst := by
      rw [List.map_append, List.map_cons] at h
      intro hmem
      exact (List.nodup_append.1 h).2.2 key hmem key List.mem_cons_self rfl
    rw [List.append_cons] at h ⊢
    rw [← put_of_notMem value hnew] at h ⊢
    exact ih h

/-- Entries with distinct keys are a map as they stand. -/
theorem ofList_of_nodup {m : List (κ × α)} (h : (m.map Prod.fst).Nodup) : ofList m = m :=
  foldl_put_of_nodup h

/-- A key reads back the last entry that was put under it. -/
theorem lookup_foldl_entries [DecidableEq κ] (entries m : List (κ × α)) (k : κ) :
    (entries.foldl (fun m (key, value) => put key value m) m).lookup k =
      ((entries.filter (·.1 = k)).getLast?.map Prod.snd).or (m.lookup k) := by
  induction entries using List.reverseRecOn with
  | nil => rfl
  | append_singleton entries e ih =>
    obtain ⟨key, value⟩ := e
    rw [List.foldl_append, List.foldl_cons, List.foldl_nil, lookup_put, ih, List.filter_append]
    by_cases hk : key = k
    · rw [if_pos hk.symm, List.filter_cons_of_pos (by simpa using hk), List.filter_nil,
        List.getLast?_concat]
      rfl
    · rw [if_neg (Ne.symm hk), List.filter_cons_of_neg (by simpa using hk), List.filter_nil,
        List.append_nil]

theorem lookup_ofList [DecidableEq κ] (entries : List (κ × α)) (k : κ) :
    (ofList entries).lookup k = (entries.filter (·.1 = k)).getLast?.map Prod.snd := by
  rw [ofList, lookup_foldl_entries, List.lookup_nil, Option.or_none]

omit [LawfulBEq κ] in
theorem ofList_concat (entries : List (κ × α)) (e : κ × α) :
    ofList (entries ++ [e]) = put e.1 e.2 (ofList entries) := by
  rw [ofList, List.foldl_append]
  rfl

theorem keys_put (key : κ) (value : α) (m : List (κ × α)) :
    (put key value m).map Prod.fst =
      if (m.map Prod.fst).contains key then m.map Prod.fst else m.map Prod.fst ++ [key] := by
  induction m with
  | nil => rfl
  | cons e rest ih =>
    rw [put, List.map_cons, List.contains_cons]
    by_cases he : (e.1 == key) = true
    · rw [if_pos he, if_pos (by simp [beq_iff_eq.1 he])]
      rfl
    · have hne : (key == e.1) = false := beq_false_of_ne fun h => he (beq_iff_eq.2 h.symm)
      rw [if_neg he, List.map_cons, ih, hne, Bool.false_or]
      split <;> rfl

/-- The keys of a map are in the order in which they are first seen. -/
theorem keys_ofList (entries : List (κ × α)) :
    (ofList entries).map Prod.fst = (entries.map Prod.fst).eraseDups := by
  induction entries using List.reverseRecOn with
  | nil => rfl
  | append_singleton entries e ih =>
    rw [ofList_concat, keys_put, ih, List.map_append, List.map_singleton, eraseDups_concat]
    simp only [List.contains_eq_mem, List.mem_eraseDups]

theorem nodup_keys_ofList (entries : List (κ × α)) : ((ofList entries).map Prod.fst).Nodup := by
  rw [keys_ofList]
  exact nodup_eraseDups _

/-- The last entry of a map has the key that came into use last, with the last value that was put
under it. -/
theorem getLast?_ofList [DecidableEq κ] (entries : List (κ × α)) :
    (ofList entries).getLast? =
      (entries.map Prod.fst).eraseDups.getLast?.bind fun k =>
        (entries.filter (·.1 = k)).getLast?.map fun e => (k, e.2) := by
  rw [← keys_ofList, List.getLast?_map]
  cases hlast : (ofList entries).getLast? with
  | none => rfl
  | some e =>
    have hmem := List.mem_of_getLast? hlast
    have hvalue := (lookup_eq_some_iff_mem (nodup_keys_ofList entries)).2 hmem
    rw [lookup_ofList, Option.map_eq_some_iff] at hvalue
    obtain ⟨e', he', hsame⟩ := hvalue
    rw [Option.map_some, Option.bind_some, he', Option.map_some, hsame]

/-- It makes no difference whether keys are left out before or after a map is built. -/
theorem filter_ofList (p : κ → Bool) (entries : List (κ × α)) :
    (ofList entries).filter (fun e => p e.1) = ofList (entries.filter fun e => p e.1) := by
  have hput (key : κ) (value : α) (m : List (κ × α)) :
      (put key value m).filter (fun e => p e.1) =
        if p key then put key value (m.filter fun e => p e.1) else m.filter fun e => p e.1 := by
    induction m with
    | nil => cases hkey : p key <;> simp [put, hkey]
    | cons e rest ih =>
      by_cases he : (e.1 == key) = true
      · obtain rfl := beq_iff_eq.1 he
        cases hkey : p e.1 <;> simp [put, hkey]
      · rw [put, if_neg he, List.filter_cons, ih]
        cases hkey : p key <;> cases hold : p e.1 <;> simp [put, hold, he]
  induction entries using List.reverseRecOn with
  | nil => rfl
  | append_singleton entries e ih =>
    rw [ofList_concat, hput, ih, List.filter_append, List.filter_singleton]
    cases p e.1 with
    | true => rw [if_pos rfl, cond_true, ofList_concat]
    | false => rw [if_neg Bool.false_ne_true, cond_false, List.append_nil]

/-- A map without one key. -/
theorem lookup_filter_ne [DecidableEq κ] (m : List (κ × α)) (key k : κ) :
    (m.filter fun e => e.1 ≠ key).lookup k = if k = key then none else m.lookup k := by
  induction m with
  | nil => simp
  | cons e m ih =>
    obtain ⟨k', v⟩ := e
    by_cases hkey : k' = key
    · rw [List.filter_cons_of_neg (by simpa using hkey), ih]
      by_cases hk : k = key
      · rw [if_pos hk, if_pos hk]
      · have hne : k ≠ k' := hkey ▸ hk
        rw [if_neg hk, if_neg hk, List.lookup_cons, beq_false_of_ne hne]
    · rw [List.filter_cons_of_pos (by simpa using hkey), List.lookup_cons, List.lookup_cons, ih]
      by_cases hk : k = k'
      · have hne : k ≠ key := hk ▸ hkey
        rw [beq_iff_eq.2 hk]
        exact (if_neg hne).symm
      · rw [beq_false_of_ne hk]

omit [LawfulBEq κ] in
/-- It makes no difference whether values are changed before or after a map is built. -/
theorem map_ofList {β : Type} (f : α → β) (entries : List (κ × α)) :
    (ofList entries).map (fun e => (e.1, f e.2)) = ofList (entries.map fun e => (e.1, f e.2)) := by
  have hput (key : κ) (value : α) (m : List (κ × α)) :
      (put key value m).map (fun e => (e.1, f e.2)) =
        put key (f value) (m.map fun e => (e.1, f e.2)) := by
    induction m with
    | nil => rfl
    | cons e rest ih =>
      rw [List.map_cons, put, put]
      split
      · rfl
      · rw [List.map_cons, ih]
  induction entries using List.reverseRecOn with
  | nil => rfl
  | append_singleton entries e ih =>
    rw [List.map_append, List.map_singleton, ofList_concat, ofList_concat, hput, ih]

omit [LawfulBEq κ] in
/-- A map has only entries that were put into it. -/
theorem mem_putNew {entry : κ × α} {key : κ} {value : α} {m : List (κ × α)}
    (h : entry ∈ putNew key value m) : entry ∈ m ∨ entry = (key, value) := by
  unfold putNew at h
  split at h
  · exact .inl h
  · rw [List.mem_append] at h
    exact h.imp_right List.mem_singleton.1

/-- One value that is put under several keys is found under each of them. -/
theorem lookup_foldl_keys [DecidableEq κ] (keys : List κ) (value : α) (m : List (κ × α)) (k : κ) :
    (keys.foldl (fun m key => put key value m) m).lookup k =
      if k ∈ keys then some value else m.lookup k := by
  induction keys generalizing m with
  | nil => simp
  | cons key keys ih =>
    rw [List.foldl_cons, ih, lookup_put]
    by_cases hkeys : k ∈ keys
    · simp [hkeys]
    · by_cases hkey : k = key
      · simp [hkey]
      · simp [hkeys, hkey]

end Scorecard.Assoc
