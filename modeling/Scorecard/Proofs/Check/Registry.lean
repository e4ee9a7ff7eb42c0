import Scorecard.Check.Registry
import Scorecard.Proofs.Assoc
import Scorecard.Proofs.Sequence
import Scorecard.Proofs.Text.UpperCase

/-!
# Calls on a registry

A registry is filled by calls, each of which registers one check or fails. A name belongs to the
check of the first call that succeeded with it, in whatever letter case, and stays with that check
whatever is called later. A call that fails leaves no trace.

The names of a check are written into the registry one by one. So there are two forms of a call: the
function that gives the next registry, and the program that writes; they do the same.
-/

namespace Scorecard

/-- All names of a check. -/
def Check.names (c : Check) : List String :=
  c.name :: c.aliases

theorem Check.mem_keys_iff {c : Check} {key : String} :
    key ∈ c.keys ↔ ∃ name ∈ c.names, Text.upper name = key :=
  List.mem_map

theorem Check.accept_eq_ok_iff {c d : Check} :
    c.accept = .ok d ↔
      c.name ≠ "" ∧ c.argumentNames.length = c.argumentKinds.length ∧ d = c := by
  unfold Check.accept
  by_cases hname : c.name = ""
  · simp [hname]
  · rw [if_neg (by simpa using hname)]
    by_cases hlength : c.argumentNames.length = c.argumentKinds.length
    · simp [hname, hlength, eq_comm]
    · simp [hlength]

namespace Registry

variable {r r' : Registry} {c d : Check} {calls : List Check} {key : String}

/-! ## One call -/

/-- The registry with all names of one more check. -/
def enter (r : Registry) (c : Check) : Registry where
  byKey := c.keys.foldl (fun m key => Assoc.put key c m) r.byKey
  primary := Assoc.put (Text.upper c.name) c r.primary

theorem lookup_enter (r : Registry) (c : Check) (key : String) :
    (r.enter c).byKey.lookup key = if key ∈ c.keys then some c else r.byKey.lookup key :=
  Assoc.lookup_foldl_keys c.keys c r.byKey key

/-- A call succeeds if the check is sound and all of its names are free. -/
theorem register_eq_ok_iff :
    r.register c = .ok r' ↔
      c.name ≠ "" ∧ (∀ key ∈ c.keys, r.byKey.lookup key = none) ∧
        c.argumentNames.length = c.argumentKinds.length ∧ r' = r.enter c := by
  unfold register
  by_cases hname : c.name = ""
  · simp [hname]
  · rw [if_neg (by simpa using hname)]
    cases htaken : c.keys.find? fun key => (r.byKey.lookup key).isSome with
    | some key =>
      have hkey := List.mem_of_find?_eq_some htaken
      have hused := List.find?_some (p := fun key => (r.byKey.lookup key).isSome) htaken
      simp only [reduceCtorEq, false_iff]
      rintro ⟨-, hfree, -⟩
      rw [hfree key hkey] at hused
      cases hused
    | none =>
      have hfree : ∀ key ∈ c.keys, r.byKey.lookup key = none := by
        intro key hkey
        have hunused := List.find?_eq_none.1 htaken key hkey
        rwa [Bool.not_eq_true, Option.isSome_eq_false_iff, Option.isNone_iff_eq_none] at hunused
      rw [map_eq_ok_iff]
      simp only [Check.accept_eq_ok_iff]
      constructor
      · rintro ⟨_, ⟨-, hlength, rfl⟩, rfl⟩
        exact ⟨hname, hfree, hlength, rfl⟩
      · rintro ⟨-, -, hlength, rfl⟩
        exact ⟨c, ⟨hname, hlength, rfl⟩, rfl⟩

/-! ## A call write by write -/

/-- A program that reads and writes a registry and may stop with an error. What it has written
before it stops stays written. -/
abbrev Program (α : Type) := ExceptT CheckError (StateM Registry) α

/-- What a program comes to on a registry, and the registry that it leaves. -/
def Program.on {α : Type} (p : Program α) (r : Registry) : Except CheckError α × Registry :=
  p.run.run r

/-- Stops if a key is taken. -/
def demandFree (key : String) : Program Unit := do
  if ((← get).byKey.lookup key).isSome then throw (.nameTaken key)

/-- Writes a check under one key. -/
def putKey (c : Check) (key : String) : Program Unit :=
  modify fun r => { r with byKey := Assoc.put key c r.byKey }

/-- Registers a check: looks at its names, takes it into use, and writes it under each name and
then under its first one. -/
def writing (c : Check) : Program Unit := do
  if c.name.isEmpty then throw .unnamed
  forM c.keys demandFree
  let c ← ExceptT.mk (pure c.accept)
  forM c.keys (putKey c)
  modify fun r => { r with primary := Assoc.put (Text.upper c.name) c r.primary }

theorem on_bind {α β : Type} (p : Program α) (f : α → Program β) (r : Registry) :
    (p >>= f : Program β).on r = match p.on r with
      | (.ok a, r') => (f a).on r'
      | (.error e, r') => (.error e, r') := by
  unfold Program.on
  rw [ExceptT.run_bind, StateT.run_bind]
  cases p.run.run r with
  | mk outcome r' => cases outcome <;> rfl

theorem on_demandFree (key : String) (r : Registry) :
    (demandFree key).on r =
      (if (r.byKey.lookup key).isSome then .error (.nameTaken key) else .ok (), r) := by
  unfold demandFree
  rw [on_bind]
  change (if _ then _ else _ : Program Unit).on r = _
  split <;> rfl

theorem on_demandAllFree (keys : List String) (r : Registry) :
    (forM keys demandFree : Program Unit).on r =
      (match keys.find? fun key => (r.byKey.lookup key).isSome with
        | some key => .error (.nameTaken key)
        | none => .ok (), r) := by
  induction keys with
  | nil => rfl
  | cons key keys ih =>
    rw [List.forM_cons, List.find?_cons, on_bind, on_demandFree]
    cases (r.byKey.lookup key).isSome with
    | true => rfl
    | false => exact ih

theorem on_putKeys (c : Check) (keys : List String) (r : Registry) :
    (forM keys (putKey c) : Program Unit).on r =
      (.ok (), { r with byKey := keys.foldl (fun m key => Assoc.put key c m) r.byKey }) := by
  induction keys generalizing r with
  | nil => rfl
  | cons key keys ih =>
    rw [List.forM_cons, on_bind]
    exact ih _

/-- Writing a check does what the call says, and a call that fails has written nothing. -/
theorem on_writing (c : Check) (r : Registry) :
    (writing c).on r = match r.register c with
      | .ok r' => (.ok (), r')
      | .error e => (.error e, r) := by
  unfold writing register
  by_cases hname : c.name.isEmpty
  · rw [if_pos hname, if_pos hname]
    rfl
  · rw [if_neg hname, if_neg hname]
    change ((forM c.keys demandFree >>= _ : Program Unit)).on r = _
    rw [on_bind, on_demandAllFree]
    cases c.keys.find? fun key => (r.byKey.lookup key).isSome with
    | some key => rfl
    | none =>
      dsimp only
      rw [on_bind]
      cases haccept : c.accept with
      | error e => rfl
      | ok d =>
        change ((forM d.keys (putKey d) >>= _ : Program Unit)).on r = _
        rw [on_bind, on_putKeys]
        obtain ⟨-, -, rfl⟩ := Check.accept_eq_ok_iff.1 haccept
        rfl

/-! ## Calls one after the other -/

/-- The registry after calls on an empty one, of which some may have failed. -/
def after (calls : List Check) : Registry :=
  ({} : Registry).registerAll calls

/-- A check is registered by one of several calls. -/
def Registered (calls : List Check) (c : Check) : Prop :=
  ∃ earlier, earlier ++ [c] <+: calls ∧ ∃ r, (after earlier).register c = .ok r

theorem after_concat (calls : List Check) (c : Check) :
    after (calls ++ [c]) = match (after calls).register c with
      | .ok r => r
      | .error _ => after calls := by
  rw [after, registerAll, List.foldl_append]
  rfl

theorem Registered.append (h : Registered calls c) (further : List Check) :
    Registered (calls ++ further) c := by
  obtain ⟨earlier, hearlier, hcall⟩ := h
  exact ⟨earlier, hearlier.trans (List.prefix_append calls further), hcall⟩

theorem registered_concat_iff :
    Registered (calls ++ [c]) d ↔
      Registered calls d ∨ d = c ∧ ∃ r, (after calls).register c = .ok r := by
  constructor
  · rintro ⟨earlier, hearlier, hcall⟩
    rcases List.prefix_concat_iff.1 hearlier with hlast | hbefore
    · obtain ⟨rfl, hsame⟩ := List.append_inj' hlast rfl
      obtain rfl := List.singleton_inj.1 hsame
      exact .inr ⟨rfl, hcall⟩
    · exact .inl ⟨earlier, hbefore, hcall⟩
  · rintro (h | ⟨rfl, hcall⟩)
    · exact h.append [c]
    · exact ⟨calls, List.prefix_rfl, hcall⟩

/-- A key is found after some calls if one of them has registered a check under it, and then it is
that check's. -/
theorem lookup_after_iff :
    (after calls).byKey.lookup key = some d ↔ Registered calls d ∧ key ∈ d.keys := by
  induction calls using List.reverseRecOn with
  | nil =>
    constructor
    · intro h
      cases h
    · rintro ⟨⟨earlier, hearlier, -⟩, -⟩
      simp at hearlier
  | append_singleton calls c ih =>
    rw [after_concat, registered_concat_iff]
    cases hcall : (after calls).register c with
    | error e => simp [ih]
    | ok r =>
      obtain ⟨-, hfree, -, rfl⟩ := register_eq_ok_iff.1 hcall
      dsimp only
      rw [lookup_enter]
      by_cases hkey : key ∈ c.keys
      · rw [if_pos hkey, Option.some_inj]
        constructor
        · rintro rfl
          exact ⟨.inr ⟨rfl, _, rfl⟩, hkey⟩
        · rintro ⟨h | ⟨rfl, -⟩, hd⟩
          · rw [hfree key hkey] at ih
            cases ih.2 ⟨h, hd⟩
          · rfl
      · rw [if_neg hkey, ih]
        constructor
        · rintro ⟨h, hd⟩
          exact ⟨.inl h, hd⟩
        · rintro ⟨h | ⟨rfl, -⟩, hd⟩
          · exact ⟨h, hd⟩
          · exact absurd hd hkey

/-- The names of a check that was registered stay its own, whatever is called later. -/
theorem Registered.lookup (h : Registered calls c) (hkey : key ∈ c.keys) (further : List Check) :
    (after (calls ++ further)).byKey.lookup key = some c :=
  lookup_after_iff.2 ⟨h.append further, hkey⟩

/-- A call fails for a check that is not sound or of whose names one is taken. -/
theorem exists_register_error_iff :
    (∃ e, (after calls).register c = .error e) ↔
      c.name = "" ∨
      (∃ d, Registered calls d ∧ ∃ name ∈ c.names, ∃ taken ∈ d.names,
        Text.upper name = Text.upper taken) ∨
      c.argumentNames.length ≠ c.argumentKinds.length := by
  have htaken : (∃ d, Registered calls d ∧ ∃ name ∈ c.names, ∃ taken ∈ d.names,
      Text.upper name = Text.upper taken) ↔
      ∃ key ∈ c.keys, (after calls).byKey.lookup key ≠ none := by
    constructor
    · rintro ⟨d, hd, name, hname, taken, htaken, hsame⟩
      have hkey : Text.upper name ∈ d.keys := Check.mem_keys_iff.2 ⟨taken, htaken, hsame.symm⟩
      refine ⟨_, Check.mem_keys_iff.2 ⟨name, hname, rfl⟩, ?_⟩
      rw [lookup_after_iff.2 ⟨hd, hkey⟩]
      exact Option.some_ne_none d
    · rintro ⟨key, hkey, hused⟩
      obtain ⟨d, hd⟩ := Option.ne_none_iff_exists'.1 hused
      obtain ⟨hregistered, hkey'⟩ := lookup_after_iff.1 hd
      obtain ⟨name, hname, rfl⟩ := Check.mem_keys_iff.1 hkey
      obtain ⟨taken, htaken, hsame⟩ := Check.mem_keys_iff.1 hkey'
      exact ⟨d, hregistered, name, hname, taken, htaken, hsame.symm⟩
  have hcall : (∃ e, (after calls).register c = .error e) ↔
      ¬ ∃ r, (after calls).register c = .ok r := by
    cases (after calls).register c <;> simp
  rw [hcall, htaken]
  simp only [register_eq_ok_iff]
  constructor
  · intro h
    by_contra hnone
    push Not at hnone
    exact h ⟨_, hnone.1, hnone.2.1, hnone.2.2, rfl⟩
  · rintro h ⟨r, hname, hfree, hlength, -⟩
    rcases h with h | ⟨key, hkey, hused⟩ | h
    · exact hname h
    · exact hused (hfree key hkey)
    · exact h hlength

/-- A name without white space around it, in any letter case, finds the check that has its key. -/
theorem find?_of_upper {name spelling : String} (htrim : Text.trim name = name)
    (hspelling : Text.upper spelling = Text.upper name) :
    r.find? spelling = r.byKey.lookup (Text.upper name) := by
  rw [find?, Text.upper_trim, hspelling, ← Text.upper_trim, htrim]

/-- After any calls on an empty registry, a call fails for a check without a name, for one of whose
names a registered check has in some letter case, and for one whose arguments and their kinds differ
in number, and for no other. A call that fails has written nothing: names are found and listed as
they were. After a call that succeeds, a name of the check without white space around it finds the
check in every letter case, whatever is called later. -/
theorem calls_settle_owners (calls : List Check) (c : Check) :
    ((∃ e, (after calls).register c = .error e) ↔
      c.name = "" ∨
      (∃ d, Registered calls d ∧ ∃ name ∈ c.names, ∃ taken ∈ d.names,
        Text.upper name = Text.upper taken) ∨
      c.argumentNames.length ≠ c.argumentKinds.length) ∧
    (∀ e, (after calls).register c = .error e →
      ∃ r, (writing c).on (after calls) = (.error e, r) ∧ r = after (calls ++ [c]) ∧
        (∀ name, r.find? name = (after calls).find? name) ∧
        (∀ name, r.findPrimary? name = (after calls).findPrimary? name) ∧
        r.ids = (after calls).ids) ∧
    ∀ r, (after calls).register c = .ok r →
      (writing c).on (after calls) = (.ok (), r) ∧ r = after (calls ++ [c]) ∧
      ∀ name ∈ c.names, Text.trim name = name →
        ∀ spelling, Text.upper spelling = Text.upper name →
          ∀ further, (after (calls ++ c :: further)).find? spelling = some c := by
  refine ⟨exists_register_error_iff, ?_, ?_⟩
  · intro e hcall
    refine ⟨after calls, ?_, ?_, fun _ => rfl, fun _ => rfl, rfl⟩
    · rw [on_writing, hcall]
    · rw [after_concat, hcall]
  · intro r hcall
    refine ⟨?_, ?_, ?_⟩
    · rw [on_writing, hcall]
    · rw [after_concat, hcall]
    · intro name hname htrim spelling hspelling further
      have hregistered : Registered (calls ++ [c]) c :=
        registered_concat_iff.2 (.inr ⟨rfl, r, hcall⟩)
      have hkey : Text.upper name ∈ c.keys := Check.mem_keys_iff.2 ⟨name, hname, rfl⟩
      rw [find?_of_upper htrim hspelling, List.append_cons]
      exact hregistered.lookup hkey further

end Registry

end Scorecard
