import ControllerManager.Defaults
import ControllerManager.Proofs.Registry.Entries
import Mathlib.Data.List.Induction

/-!
# Defaults over a history

The keys of a resolver are applied in any order and as often as one likes, with any fallbacks. The
first call that gives a key a value fixes it: the value comes by the order of the sources, and from
then on every call gives that value. A call that fails leaves the resolver as it is, so that a later
one may still give a value. What is asked about one key has no influence on another.

## Main definitions

* `Defaults.Call`, `Defaults.Reply` — what is asked of a resolver, and what it replies.
* `Defaults.Takes` — the value of a key by the order of its sources.
* `Defaults.Resolver.Gave` — a call of a history gave a key a value.
* `Defaults.Resolver.Alike` — resolvers that no call tells apart.
* `Defaults.Resolver.Settled` — what calls after a history come to.

## Main results

* `Defaults.Resolver.gave_iff` — what a history gave is what the resolver keeps.
* `Defaults.Resolver.alike_comm` — calls about different keys commute.
* `Defaults.Resolver.first_success_settles`.
-/

namespace ControllerManager.Defaults

/-! ### Sources of a value -/

/-- The explicit value of a key. -/
def Overrides.value? (o : Overrides) (key : String) : Option String :=
  if key = pvcKey then o.releasePvc
  else if key = workspaceKey then o.releaseWorkspaceName else none

/-- Something that is not empty is set explicitly. -/
def IsExplicit (explicit : Option String) : Prop := ∃ value, explicit = some value ∧ value ≠ ""

/-- A variable is a text, or there is none. -/
def IsReadable (reading : Environment.Reading) : Prop := ∀ bytes, reading ≠ .unreadable bytes

/-- A value with its origin by the order of the sources: an explicit value comes before one from
the environment, and that before the fallback. Empty values count as unset, and a variable that
cannot be read hides the fallback. -/
inductive Takes (explicit : Option String) (reading : Environment.Reading) (fallback : String) :
    String → Origin → Prop
  | explicit {value : String} (hexplicit : explicit = some value) (hvalue : value ≠ "") :
    Takes explicit reading fallback value .explicit
  | environment {value : String} (hexplicit : ¬ IsExplicit explicit)
      (hreading : reading = .text value) (hvalue : value ≠ "") :
    Takes explicit reading fallback value .environment
  | fallback (hexplicit : ¬ IsExplicit explicit) (hreading : reading = .unset ∨ reading = .text "")
      (hfallback : fallback ≠ "") : Takes explicit reading fallback fallback .fallback

section Sources

variable {explicit : Option String} {reading : Environment.Reading} {fallback : String}

/-- There is a value when one of the sources has one, and no variable hides the fallback. -/
theorem exists_takes_iff :
    (∃ value origin, Takes explicit reading fallback value origin) ↔
      IsExplicit explicit ∨ (∃ value, reading = .text value ∧ value ≠ "") ∨
        (IsReadable reading ∧ fallback ≠ "") := by
  constructor
  · rintro ⟨value, origin, h⟩
    cases h with
    | explicit h hvalue => exact .inl ⟨value, h, hvalue⟩
    | environment _ h hvalue => exact .inr (.inl ⟨value, h, hvalue⟩)
    | fallback _ h hfallback =>
      refine .inr (.inr ⟨fun bytes hbytes => ?_, hfallback⟩)
      rcases h with h | h <;> simp [h] at hbytes
  · intro h
    by_cases hexplicit : IsExplicit explicit
    · obtain ⟨value, hvalue, hne⟩ := hexplicit
      exact ⟨value, .explicit, .explicit hvalue hne⟩
    · rcases h with h | ⟨value, hvalue, hne⟩ | ⟨hread, hne⟩
      · exact absurd h hexplicit
      · exact ⟨value, .environment, .environment hexplicit hvalue hne⟩
      · cases reading with
        | unset => exact ⟨fallback, .fallback, .fallback hexplicit (.inl rfl) hne⟩
        | unreadable bytes => exact absurd rfl (hread bytes)
        | text value =>
          by_cases hvalue : value = ""
          · exact ⟨fallback, .fallback, .fallback hexplicit (.inr (by rw [hvalue])) hne⟩
          · exact ⟨value, .environment, .environment hexplicit rfl hvalue⟩

theorem filter_eq_none_iff : explicit.filter (!·.isEmpty) = none ↔ ¬ IsExplicit explicit := by
  simp [IsExplicit, Option.filter_eq_none_iff]

theorem filter_eq_some_iff {value : String} :
    explicit.filter (!·.isEmpty) = some value ↔ explicit = some value ∧ value ≠ "" := by
  simp [Option.filter_eq_some_iff]

end Sources

/-! ### Calls on a resolver -/

/-- What is asked of a resolver. -/
inductive Call where
  | apply (key fallback : String)
  | origin (key : String)

/-- The key that a call is about. -/
def Call.key : Call → String
  | .apply key _ => key
  | .origin key => key

/-- What a resolver replies. -/
inductive Reply where
  | applied (value : Except Fault String)
  | origin (origin : Option Origin)

namespace Resolver

variable {r r' : Resolver} {key fallback value : String} {origin : Origin}

/-- The value that a key is given, or why it has none. -/
def valueOf (r : Resolver) (key fallback : String) : Except Fault String :=
  (r.apply key fallback).map (·.1)

/-- The reply to a call. -/
def reply (r : Resolver) : Call → Reply
  | .apply key fallback => .applied (r.valueOf key fallback)
  | .origin key => .origin (r.origin? key)

/-- The resolver after a call. One that fails leaves it as it is. -/
def after (r : Resolver) : Call → Resolver
  | .apply key fallback =>
    match r.apply key fallback with
    | .ok (_, r') => r'
    | .error _ => r
  | .origin _ => r

/-- The resolver after a history of calls. -/
def afterAll (r : Resolver) (calls : List Call) : Resolver := calls.foldl after r

/-- The replies to calls in order. -/
def replies (r : Resolver) : List Call → List Reply
  | [] => []
  | c :: calls => r.reply c :: (r.after c).replies calls

/-- What is looked up for a key comes by the order of its sources. -/
theorem lookup_eq_ok_iff {explicit : Option String}
    (h : r.explicit? key = explicit.filter (!·.isEmpty)) :
    r.lookup key fallback = .ok (value, origin) ↔
      Takes explicit (r.environment key) fallback value origin := by
  unfold lookup
  rw [h]
  cases hexplicit : explicit.filter (!·.isEmpty) with
  | some v =>
    obtain ⟨hsome, hne⟩ := filter_eq_some_iff.1 hexplicit
    constructor
    · intro heq
      cases heq
      exact .explicit hsome hne
    · intro htakes
      cases htakes with
      | explicit h' _ => rw [Option.some.inj (hsome.symm.trans h')]
      | environment hnone _ _ => exact absurd ⟨v, hsome, hne⟩ hnone
      | fallback hnone _ _ => exact absurd ⟨v, hsome, hne⟩ hnone
  | none =>
    have hnone := filter_eq_none_iff.1 hexplicit
    constructor
    · intro heq
      cases hreading : r.environment key with
      | unset =>
        by_cases hfallback : fallback = ""
        · simp [hreading, hfallback] at heq
        · obtain ⟨rfl, rfl⟩ : fallback = value ∧ Origin.fallback = origin := by
            simpa [hreading, hfallback] using heq
          exact .fallback hnone (.inl rfl) hfallback
      | text v =>
        by_cases hv : v = ""
        · subst hv
          by_cases hfallback : fallback = ""
          · simp [hreading, hfallback] at heq
          · obtain ⟨rfl, rfl⟩ : fallback = value ∧ Origin.fallback = origin := by
              simpa [hreading, hfallback] using heq
            exact .fallback hnone (.inr rfl) hfallback
        · obtain ⟨rfl, rfl⟩ : v = value ∧ Origin.environment = origin := by
            simpa [hreading, hv] using heq
          exact .environment hnone rfl hv
      | unreadable bytes => simp [hreading] at heq
    · intro htakes
      cases htakes with
      | explicit hsome hne => exact absurd ⟨value, hsome, hne⟩ hnone
      | environment _ hreading hne => simp [hreading, hne]
      | fallback _ hreading hne => rcases hreading with h | h <;> simp [h, hne]

/-- Where there is a fallback, nothing is found only because the variable cannot be read. -/
theorem unreadable_of_lookup_eq_error {fault : Fault} (hfallback : fallback ≠ "")
    (h : r.lookup key fallback = .error fault) :
    r.explicit? key = none ∧ ∃ bytes, r.environment key = .unreadable bytes ∧
      fault = .unreadable bytes := by
  unfold lookup at h
  cases hexplicit : r.explicit? key with
  | some v => simp [hexplicit] at h
  | none =>
    cases hreading : r.environment key with
    | unset => simp [hexplicit, hreading, hfallback] at h
    | unreadable bytes => exact ⟨rfl, bytes, rfl, by simpa [hexplicit, hreading, eq_comm] using h⟩
    | text v => by_cases hv : v = "" <;> simp [hexplicit, hreading, hfallback, hv] at h

theorem map_fst_eq_ok_iff {α : Type} {x : Except Fault (String × α)} :
    x.map (·.1) = .ok value ↔ ∃ a, x = .ok (value, a) := by
  rcases x with fault | ⟨v, a⟩ <;> simp [Except.map]

theorem toOption_eq_some_iff {α : Type} {x : Except Fault α} {a : α} :
    x.toOption = some a ↔ x = .ok a := by
  cases x <;> simp [Except.toOption]

theorem contains_eq_false_iff : r.applied.contains key = false ↔ r.applied? key = none := by
  have hcontains : r.applied.contains key = true ↔ ∃ e ∈ r.applied.entries, e.1 = key := by
    simp [Roster.contains, Roster.names]
  rw [← Bool.not_eq_true, hcontains, applied?, Option.map_eq_none_iff, List.find?_eq_none]
  simp only [not_exists, not_and, beq_iff_eq]

/-- What comes of applying a key. -/
inductive Applies (r : Resolver) (key fallback : String) : Except Fault (String × Resolver) → Prop
  | invalid (hvalid : ¬ isValidKey key) : Applies r key fallback (.error .invalidKey)
  | known {x : String × Origin} (hvalid : isValidKey key) (happlied : r.applied? key = some x) :
    Applies r key fallback (.ok (x.1, r))
  | refused {fault : Fault} (hvalid : isValidKey key) (hfresh : r.applied? key = none)
      (hlookup : r.lookup key fallback = .error fault) : Applies r key fallback (.error fault)
  | taken {x : String × Origin} {roster : Roster (String × Origin)} (hvalid : isValidKey key)
      (hfresh : r.applied? key = none) (hlookup : r.lookup key fallback = .ok x)
      (hentries : roster.entries = r.applied.entries ++ [(key, x)]) :
    Applies r key fallback (.ok (x.1, { r with applied := roster }))

theorem applies_apply (r : Resolver) (key fallback : String) :
    Applies r key fallback (r.apply key fallback) := by
  unfold apply
  by_cases hvalid : isValidKey key = true
  · cases happlied : r.applied? key with
    | some x => simpa [hvalid] using Applies.known hvalid happlied
    | none =>
      cases hlookup : r.lookup key fallback with
      | error fault => simpa [hvalid] using Applies.refused hvalid happlied hlookup
      | ok x =>
        obtain ⟨roster, hadd, hentries⟩ :=
          Roster.exists_add? (contains_eq_false_iff.2 happlied) x
        simpa [hvalid, hadd] using Applies.taken hvalid happlied hlookup hentries
  · simpa [hvalid] using Applies.invalid hvalid

/-- The value of a key is the one that was applied to it, and otherwise the one that is looked
up. -/
theorem valueOf_eq (r : Resolver) (key fallback : String) :
    r.valueOf key fallback =
      if isValidKey key then
        match r.applied? key with
        | some x => .ok x.1
        | none => (r.lookup key fallback).map (·.1)
      else .error .invalidKey := by
  have h := r.applies_apply key fallback
  unfold valueOf
  generalize r.apply key fallback = result at h
  cases h with
  | invalid hvalid => simp [hvalid, Except.map]
  | known hvalid happlied => simp [hvalid, happlied, Except.map]
  | refused hvalid hfresh hlookup => simp [hvalid, hfresh, hlookup, Except.map]
  | taken hvalid hfresh hlookup _ => simp [hvalid, hfresh, hlookup, Except.map]

/-- A call leaves the other keys as they are, and its own key too when that was applied before. -/
theorem applied?_after_apply (r : Resolver) (key fallback k : String) :
    (r.after (.apply key fallback)).applied? k =
      if k = key ∧ isValidKey key ∧ r.applied? key = none then (r.lookup key fallback).toOption
      else r.applied? k := by
  have h := r.applies_apply key fallback
  unfold after
  dsimp only
  generalize r.apply key fallback = result at h
  cases h with
  | invalid hvalid => simp [hvalid]
  | known hvalid happlied => simp [happlied]
  | refused hvalid hfresh hlookup =>
    by_cases hk : k = key
    · simp [hk, hvalid, hfresh, hlookup, Except.toOption]
    · simp [hk]
  | taken hvalid hfresh hlookup hentries =>
    simp only [applied?, hentries, List.find?_append, Option.map_or] at hfresh ⊢
    by_cases hk : k = key
    · subst hk
      simp [hfresh, hvalid, hlookup, Except.toOption]
    · have hk' : key ≠ k := fun h => hk h.symm
      simp [hk, hk']

/-- The sources are the same after a call. -/
theorem lookup_after (r : Resolver) (c : Call) : (r.after c).lookup = r.lookup := by
  cases c with
  | apply key fallback =>
    have h := r.applies_apply key fallback
    unfold after
    dsimp only
    generalize r.apply key fallback = result at h
    cases h <;> rfl
  | origin key => rfl

theorem applied?_after_of_ne {c : Call} (h : c.key ≠ key) :
    (r.after c).applied? key = r.applied? key := by
  cases c with
  | apply k fallback => rw [applied?_after_apply, if_neg fun hk => h hk.1.symm]
  | origin k => rfl

theorem applied?_after_of_eq_some {x : String × Origin} (h : r.applied? key = some x) (c : Call) :
    (r.after c).applied? key = some x := by
  by_cases hkey : c.key = key
  · cases c with
    | apply k fallback =>
      obtain rfl : k = key := hkey
      rw [applied?_after_apply, if_neg (by simp [h]), h]
    | origin k => exact h
  · rw [applied?_after_of_ne hkey, h]

theorem valueOf_after_of_ne {c : Call} (h : c.key ≠ key) (fallback : String) :
    (r.after c).valueOf key fallback = r.valueOf key fallback := by
  rw [valueOf_eq, valueOf_eq, lookup_after, applied?_after_of_ne h]

theorem reply_after_of_ne {c c' : Call} (h : c.key ≠ c'.key) :
    (r.after c).reply c' = r.reply c' := by
  cases c' with
  | apply key fallback => exact congrArg Reply.applied (valueOf_after_of_ne h fallback)
  | origin key => exact congrArg (fun x => Reply.origin (x.map (·.2))) (applied?_after_of_ne h)

/-! ### Resolvers that no call tells apart -/

/-- Resolvers with the same sources that have applied the same. They may have applied it in
another order. -/
structure Alike (r r' : Resolver) : Prop where
  lookup : r.lookup = r'.lookup
  applied? : r.applied? = r'.applied?

theorem Alike.valueOf (h : r.Alike r') (key fallback : String) :
    r.valueOf key fallback = r'.valueOf key fallback := by
  rw [valueOf_eq, valueOf_eq, h.lookup, h.applied?]

theorem Alike.reply (h : r.Alike r') (c : Call) : r.reply c = r'.reply c := by
  cases c with
  | apply key fallback => exact congrArg Reply.applied (h.valueOf key fallback)
  | origin key => exact congrArg (fun x => Reply.origin ((x key).map (·.2))) h.applied?

theorem Alike.after (h : r.Alike r') (c : Call) : (r.after c).Alike (r'.after c) := by
  refine ⟨by rw [lookup_after, lookup_after, h.lookup], ?_⟩
  cases c with
  | apply key fallback =>
    funext k
    rw [applied?_after_apply, applied?_after_apply, h.lookup, h.applied?]
  | origin key => exact h.applied?

theorem Alike.afterAll (h : r.Alike r') (calls : List Call) :
    (r.afterAll calls).Alike (r'.afterAll calls) := by
  induction calls generalizing r r' with
  | nil => exact h
  | cons c calls ih => exact ih (h.after c)

theorem Alike.replies (h : r.Alike r') (calls : List Call) :
    r.replies calls = r'.replies calls := by
  induction calls generalizing r r' with
  | nil => rfl
  | cons c calls ih => exact congrArg₂ List.cons (h.reply c) (ih (h.after c))

/-- The values of the release service are those of its two keys, with the standard fallbacks. -/
theorem resolve_eq (r : Resolver) :
    r.resolve.1 =
      match r.valueOf pvcKey Values.standard.releasePvc with
      | .error fault => .error (fault.toError pvcKey)
      | .ok pvc =>
        match r.valueOf workspaceKey Values.standard.releaseWorkspaceName with
        | .error fault => .error (fault.toError workspaceKey)
        | .ok workspace => .ok ⟨pvc, workspace⟩ := by
  have hkeys : (Call.apply pvcKey Values.standard.releasePvc).key ≠ workspaceKey := by decide
  have hother := valueOf_after_of_ne (r := r) hkeys Values.standard.releaseWorkspaceName
  rw [← hother]
  unfold resolve valueOf after
  dsimp only
  rcases r.apply pvcKey Values.standard.releasePvc with fault | ⟨pvc, r₁⟩
  · rfl
  · dsimp only [Except.map]
    rcases r₁.apply workspaceKey Values.standard.releaseWorkspaceName with fault | ⟨workspace, r₂⟩
    · rfl
    · rfl

theorem resolve_eq_ok_iff {values : Values} :
    r.resolve.1 = .ok values ↔
      r.valueOf pvcKey Values.standard.releasePvc = .ok values.releasePvc ∧
        r.valueOf workspaceKey Values.standard.releaseWorkspaceName =
          .ok values.releaseWorkspaceName := by
  obtain ⟨pvc, workspace⟩ := values
  rw [resolve_eq]
  cases r.valueOf pvcKey Values.standard.releasePvc <;>
    cases r.valueOf workspaceKey Values.standard.releaseWorkspaceName <;> simp

/-- Where the values are missing, one of the two keys was refused a value. -/
theorem resolve_eq_error {error : Error} (h : r.resolve.1 = .error error) :
    (∃ fault, r.valueOf pvcKey Values.standard.releasePvc = .error fault ∧
        error = fault.toError pvcKey) ∨
      ∃ fault, r.valueOf workspaceKey Values.standard.releaseWorkspaceName = .error fault ∧
        error = fault.toError workspaceKey := by
  rw [resolve_eq] at h
  cases hpvc : r.valueOf pvcKey Values.standard.releasePvc with
  | error fault => exact .inl ⟨fault, rfl, by simpa [hpvc, eq_comm] using h⟩
  | ok pvc =>
    cases hworkspace : r.valueOf workspaceKey Values.standard.releaseWorkspaceName with
    | error fault => exact .inr ⟨fault, rfl, by simpa [hpvc, hworkspace, eq_comm] using h⟩
    | ok workspace => simp [hpvc, hworkspace] at h

theorem Alike.resolve (h : r.Alike r') : r.resolve.1 = r'.resolve.1 := by
  rw [resolve_eq, resolve_eq, h.valueOf, h.valueOf]

/-- **Calls about different keys commute.** -/
theorem alike_comm (r : Resolver) {c c' : Call} (h : c.key ≠ c'.key) :
    ((r.after c).after c').Alike ((r.after c').after c) := by
  refine ⟨by simp only [lookup_after], ?_⟩
  funext k
  by_cases hk : c.key = k
  · subst hk
    rw [applied?_after_of_ne (Ne.symm h)]
    cases c with
    | apply key fallback =>
      have hother : (r.after c').applied? key = r.applied? key := applied?_after_of_ne (Ne.symm h)
      simp only [Call.key, applied?_after_apply, lookup_after, hother]
    | origin key => exact (applied?_after_of_ne (Ne.symm h)).symm
  · rw [applied?_after_of_ne hk]
    cases c' with
    | apply key fallback =>
      have hother : (r.after c).applied? key = r.applied? key := applied?_after_of_ne h
      simp only [applied?_after_apply, lookup_after, hother, applied?_after_of_ne hk]
    | origin key => exact applied?_after_of_ne hk

/-! ### Histories -/

/-- A call of the history applied the key, and the key was given the value. -/
def Gave (r : Resolver) (calls : List Call) (key value : String) : Prop :=
  ∃ before fallback later, calls = before ++ .apply key fallback :: later ∧
    (r.afterAll before).valueOf key fallback = .ok value

theorem afterAll_concat (r : Resolver) (calls : List Call) (c : Call) :
    r.afterAll (calls ++ [c]) = (r.afterAll calls).after c := by
  simp [afterAll]

/-- The last call of a history gives a value, or one before it did. -/
theorem gave_concat_iff {calls : List Call} {c : Call} :
    r.Gave (calls ++ [c]) key value ↔
      r.Gave calls key value ∨
        ∃ fallback, c = .apply key fallback ∧
          (r.afterAll calls).valueOf key fallback = .ok value := by
  constructor
  · rintro ⟨before, fallback, later, hcalls, hvalue⟩
    rcases List.eq_nil_or_concat later with rfl | ⟨later, last, rfl⟩
    · obtain ⟨rfl, hc⟩ := List.append_inj' hcalls rfl
      exact .inr ⟨fallback, by simpa using hc, hvalue⟩
    · have hcalls : calls ++ [c] = (before ++ .apply key fallback :: later) ++ [last] := by
        simpa using hcalls
      exact .inl ⟨before, fallback, later, (List.append_inj' hcalls rfl).1, hvalue⟩
  · rintro (⟨before, fallback, later, rfl, hvalue⟩ | ⟨fallback, rfl, hvalue⟩)
    · exact ⟨before, fallback, later ++ [c], by simp, hvalue⟩
    · exact ⟨calls, fallback, [], rfl, hvalue⟩

theorem lookup_afterAll (r : Resolver) (calls : List Call) :
    (r.afterAll calls).lookup = r.lookup := by
  induction calls using List.reverseRecOn with
  | nil => rfl
  | append_singleton calls c ih => rw [afterAll_concat, lookup_after, ih]

theorem applied?_afterAll_of_eq_some {x : String × Origin} (h : r.applied? key = some x)
    (calls : List Call) : (r.afterAll calls).applied? key = some x := by
  induction calls using List.reverseRecOn with
  | nil => exact h
  | append_singleton calls c ih => rw [afterAll_concat, applied?_after_of_eq_some ih]

/-- What the calls of a history gave is what the resolver keeps. -/
theorem gave_iff (h : ∀ key, r.applied? key = none) {calls : List Call} :
    r.Gave calls key value ↔ ∃ origin, (r.afterAll calls).applied? key = some (value, origin) := by
  induction calls using List.reverseRecOn with
  | nil =>
    constructor
    · rintro ⟨before, fallback, later, hcalls, -⟩
      simp at hcalls
    · rintro ⟨origin, horigin⟩
      cases (h key).symm.trans horigin
  | append_singleton calls c ih =>
    rw [gave_concat_iff, ih, afterAll_concat]
    generalize r.afterAll calls = s
    cases happlied : s.applied? key with
    | some x =>
      rw [applied?_after_of_eq_some happlied]
      refine or_iff_left_of_imp ?_
      rintro ⟨fallback, -, hvalue⟩
      rw [valueOf_eq, happlied] at hvalue
      split_ifs at hvalue
      exact ⟨x.2, by rw [← Except.ok.inj hvalue]⟩
    | none =>
      refine (or_iff_right (by simp)).trans ?_
      constructor
      · rintro ⟨fallback, rfl, hvalue⟩
        rw [valueOf_eq, happlied] at hvalue
        split_ifs at hvalue with hvalid
        obtain ⟨origin, horigin⟩ := map_fst_eq_ok_iff.1 hvalue
        exact ⟨origin, by rw [applied?_after_apply, if_pos ⟨rfl, hvalid, happlied⟩, horigin]; rfl⟩
      · rintro ⟨origin, horigin⟩
        cases c with
        | apply k fallback =>
          rw [applied?_after_apply] at horigin
          split_ifs at horigin with hk
          · obtain ⟨rfl, hvalid, -⟩ := hk
            refine ⟨fallback, rfl, ?_⟩
            rw [valueOf_eq, happlied, if_pos hvalid]
            exact map_fst_eq_ok_iff.2 ⟨origin, toOption_eq_some_iff.1 horigin⟩
          · cases happlied.symm.trans horigin
        | origin k => cases happlied.symm.trans horigin

theorem isValidKey_of_gave {calls : List Call} (h : r.Gave calls key value) :
    isValidKey key = true := by
  obtain ⟨before, fallback, later, -, hvalue⟩ := h
  rw [valueOf_eq] at hvalue
  split_ifs at hvalue with hvalid
  exact hvalid

/-! ### The resolver of a start -/

/-- The resolver that has applied nothing, with a source of variables and explicit values. -/
def seeded (environment : Environment.Source) (o : Overrides) : Resolver :=
  (ofSource environment).withOverrides o

variable {environment : Environment.Source} {o : Overrides}

theorem applied?_seeded (key : String) : (seeded environment o).applied? key = none := rfl

theorem explicit?_seeded (key : String) :
    (seeded environment o).explicit? key = (o.value? key).filter (!·.isEmpty) := by
  have hkeys : pvcKey ≠ workspaceKey := by decide
  obtain ⟨pvc, workspace⟩ := o
  unfold explicit? Overrides.value?
  congr 1
  by_cases hpvc : key = pvcKey
  · subst hpvc
    cases pvc <;> cases workspace <;> simp [seeded, withOverrides, hkeys.symm]
  · have hpvc' : pvcKey ≠ key := Ne.symm hpvc
    by_cases hworkspace : key = workspaceKey
    · subst hworkspace
      cases pvc <;> cases workspace <;> simp [seeded, withOverrides, hkeys, hkeys.symm]
    · have hworkspace' : workspaceKey ≠ key := Ne.symm hworkspace
      cases pvc <;> cases workspace <;>
        simp [seeded, withOverrides, hpvc, hworkspace, hpvc', hworkspace']

/-- The value of a key after a history: the one that it was given, and otherwise the one that comes
by the order of its sources. -/
def Comes (environment : Environment.Source) (o : Overrides) (gave : String → String → Prop)
    (key fallback value : String) : Prop :=
  gave key value ∨
    (∀ v, ¬ gave key v) ∧ ∃ origin, Takes (o.value? key) (environment key) fallback value origin

theorem exists_comes_iff {gave : String → String → Prop} :
    (∃ value, Comes environment o gave key fallback value) ↔
      (∃ value, gave key value) ∨
        ∃ value origin, Takes (o.value? key) (environment key) fallback value origin := by
  constructor
  · rintro ⟨value, hgave | ⟨-, htakes⟩⟩
    · exact .inl ⟨value, hgave⟩
    · exact .inr ⟨value, htakes⟩
  · intro h
    by_cases hgave : ∃ value, gave key value
    · exact hgave.imp fun _ => .inl
    · obtain ⟨value, htakes⟩ := h.resolve_left hgave
      exact ⟨value, .inr ⟨not_exists.1 hgave, htakes⟩⟩

/-- What calls after a history come to: `gave key value` says that the history gave a key a value,
and `r` is the resolver after it. -/
structure Settled (environment : Environment.Source) (o : Overrides)
    (gave : String → String → Prop) (r : Resolver) : Prop where
  /-- A key is given a value when its name is valid and it has one already, or one of its sources
  has one and no variable hides the fallback. -/
  succeeds : ∀ key fallback, (∃ value, r.valueOf key fallback = .ok value) ↔
    (key ≠ "" ∧ '=' ∉ key.toList ∧ '\x00' ∉ key.toList) ∧
      ((∃ value, gave key value) ∨ IsExplicit (o.value? key) ∨
        (∃ value, environment key = .text value ∧ value ≠ "") ∨
        (IsReadable (environment key) ∧ fallback ≠ ""))
  /-- The first value comes by the order of the sources. -/
  first : ∀ key fallback value, (∀ v, ¬ gave key v) → r.valueOf key fallback = .ok value →
    ∃ origin, Takes (o.value? key) (environment key) fallback value origin ∧
      (r.after (.apply key fallback)).origin? key = some origin
  /-- A value that was given is given again. -/
  again : ∀ key value, gave key value → ∀ fallback, r.valueOf key fallback = .ok value
  /-- A key has no origin before it has a value. -/
  originless : ∀ key, r.origin? key = none ↔ ∀ value, ¬ gave key value
  /-- The origin of a key that has a value stays. -/
  constant : ∀ key value, gave key value → ∀ later, (r.afterAll later).origin? key = r.origin? key
  /-- A call that fails changes nothing. -/
  unchanged : ∀ key fallback fault, r.valueOf key fallback = .error fault →
    r.after (.apply key fallback) = r
  /-- The replies to calls about different keys do not depend on their order, and neither does
  what is replied after them. -/
  commutes : ∀ c c' : Call, c.key ≠ c'.key →
    (r.after c).reply c' = r.reply c' ∧ (r.after c').reply c = r.reply c ∧
      (∀ later, ((r.after c).after c').replies later = ((r.after c').after c).replies later) ∧
      ∀ later, (((r.after c).after c').afterAll later).resolve.1 =
        (((r.after c').after c).afterAll later).resolve.1
  /-- The values of the release service are those that were given, and otherwise come by the order
  of the sources, with the standard fallbacks. -/
  resolves : ∀ values, r.resolve.1 = .ok values ↔
    Comes environment o gave pvcKey Values.standard.releasePvc values.releasePvc ∧
      Comes environment o gave workspaceKey Values.standard.releaseWorkspaceName
        values.releaseWorkspaceName
  /-- They are missing only where a key was given no value, has no explicit one, and its variable
  cannot be read. -/
  unresolved : ∀ error, r.resolve.1 = .error error →
    ∃ key bytes, (key = pvcKey ∨ key = workspaceKey) ∧ (∀ v, ¬ gave key v) ∧
      ¬ IsExplicit (o.value? key) ∧ environment key = .unreadable bytes ∧
      error = .defaults key (Environment.unreadableMessage bytes)

theorem isValidKey_iff :
    isValidKey key = true ↔ key ≠ "" ∧ '=' ∉ key.toList ∧ '\x00' ∉ key.toList := by
  simp [isValidKey, and_assoc]

/-- What is looked up after a history comes by the order of the sources. -/
theorem lookup_reached (calls : List Call) :
    ((seeded environment o).afterAll calls).lookup key fallback = .ok (value, origin) ↔
      Takes (o.value? key) (environment key) fallback value origin := by
  rw [lookup_afterAll]
  exact lookup_eq_ok_iff (explicit?_seeded key)

theorem gave_reached (calls : List Call) (key value : String) :
    (seeded environment o).Gave calls key value ↔
      ∃ origin, ((seeded environment o).afterAll calls).applied? key = some (value, origin) :=
  gave_iff applied?_seeded

theorem applied?_reached (calls : List Call) :
    ((seeded environment o).afterAll calls).applied? key = none ↔
      ∀ value, ¬ (seeded environment o).Gave calls key value := by
  rw [Option.eq_none_iff_forall_ne_some]
  constructor
  · intro hnone value hgave
    obtain ⟨origin, horigin⟩ := (gave_reached calls key value).1 hgave
    exact hnone _ horigin
  · rintro hnone ⟨value, origin⟩ h
    exact hnone value ((gave_reached calls key value).2 ⟨origin, h⟩)

/-- A value is given after a history when the name of the key is valid and the value comes from
there. -/
theorem valueOf_reached (calls : List Call) :
    ((seeded environment o).afterAll calls).valueOf key fallback = .ok value ↔
      isValidKey key = true ∧
        Comes environment o ((seeded environment o).Gave calls) key fallback value := by
  by_cases hvalid : isValidKey key = true
  · rw [valueOf_eq, if_pos hvalid, and_iff_right hvalid, Comes]
    cases happlied : ((seeded environment o).afterAll calls).applied? key with
    | some x =>
      have hsome : ¬ ∀ v, ¬ (seeded environment o).Gave calls key v := by
        rw [← applied?_reached, happlied]
        simp
      rw [or_iff_left fun h => hsome h.1, gave_reached, happlied]
      obtain ⟨v, origin⟩ := x
      simp
    | none =>
      have hnone := (applied?_reached calls).1 happlied
      rw [or_iff_right (hnone value), and_iff_right hnone]
      refine map_fst_eq_ok_iff.trans ?_
      simp only [lookup_reached]
  · rw [valueOf_eq, if_neg hvalid]
    simp [hvalid]

/-- A key that is refused a value after a history was given none by it. -/
theorem not_gave_of_valueOf_eq_error {calls : List Call} {fault : Fault}
    (h : ((seeded environment o).afterAll calls).valueOf key fallback = .error fault) (v : String) :
    ¬ (seeded environment o).Gave calls key v := by
  intro hgave
  cases h.symm.trans ((valueOf_reached calls).2 ⟨isValidKey_of_gave hgave, .inl hgave⟩)

/-- Where there is a fallback, a key with a valid name is refused a value only because its variable
cannot be read. -/
theorem unreadable_of_valueOf_eq_error {calls : List Call} {fault : Fault}
    (hvalid : isValidKey key = true) (hfallback : fallback ≠ "")
    (h : ((seeded environment o).afterAll calls).valueOf key fallback = .error fault) :
    ¬ IsExplicit (o.value? key) ∧ ∃ bytes, environment key = .unreadable bytes ∧
      fault = .unreadable bytes := by
  have hfresh := (applied?_reached calls).2 (not_gave_of_valueOf_eq_error h)
  rw [valueOf_eq, if_pos hvalid, hfresh, lookup_afterAll] at h
  have hlookup : (seeded environment o).lookup key fallback = .error fault := by
    rcases hx : (seeded environment o).lookup key fallback with fault' | x
    · simpa [hx, Except.map] using h
    · simp [hx, Except.map] at h
  obtain ⟨hexplicit, hunreadable⟩ := unreadable_of_lookup_eq_error hfallback hlookup
  rw [explicit?_seeded, filter_eq_none_iff] at hexplicit
  exact ⟨hexplicit, hunreadable⟩

/-- **The first success settles a key**, whatever the history is. -/
theorem first_success_settles (environment : Environment.Source) (o : Overrides)
    (calls : List Call) :
    Settled environment o ((seeded environment o).Gave calls)
      ((seeded environment o).afterAll calls) where
  succeeds key fallback := by
    simp only [valueOf_reached, exists_and_left, exists_comes_iff, isValidKey_iff, exists_takes_iff]
  first key fallback value hfresh hvalue := by
    obtain ⟨hvalid, hgave | ⟨-, origin, htakes⟩⟩ := (valueOf_reached calls).1 hvalue
    · exact absurd hgave (hfresh value)
    · refine ⟨origin, htakes, ?_⟩
      rw [origin?, applied?_after_apply, if_pos ⟨rfl, hvalid, (applied?_reached calls).2 hfresh⟩,
        (lookup_reached calls).2 htakes]
      rfl
  again key value hgave fallback := (valueOf_reached calls).2 ⟨isValidKey_of_gave hgave, .inl hgave⟩
  originless key := by rw [origin?, Option.map_eq_none_iff, applied?_reached]
  constant key value hgave later := by
    obtain ⟨origin, horigin⟩ := (gave_reached calls key value).1 hgave
    rw [origin?, origin?, horigin, applied?_afterAll_of_eq_some horigin]
  unchanged key fallback fault hvalue := by
    unfold valueOf at hvalue
    unfold after
    dsimp only
    cases happly : ((seeded environment o).afterAll calls).apply key fallback with
    | error _ => rfl
    | ok x => simp [happly, Except.map] at hvalue
  commutes c c' h := by
    have halike := alike_comm ((seeded environment o).afterAll calls) h
    exact ⟨reply_after_of_ne h, reply_after_of_ne (Ne.symm h), halike.replies,
      fun later => (halike.afterAll later).resolve⟩
  resolves values := by
    have hpvc : isValidKey pvcKey = true := by decide
    have hworkspace : isValidKey workspaceKey = true := by decide
    rw [resolve_eq_ok_iff, valueOf_reached, valueOf_reached, and_iff_right hpvc,
      and_iff_right hworkspace]
  unresolved error herror := by
    rcases resolve_eq_error herror with ⟨fault, hvalue, rfl⟩ | ⟨fault, hvalue, rfl⟩
    · obtain ⟨hexplicit, bytes, hbytes, rfl⟩ :=
        unreadable_of_valueOf_eq_error (by decide) (by decide) hvalue
      exact ⟨pvcKey, bytes, .inl rfl, not_gave_of_valueOf_eq_error hvalue, hexplicit, hbytes, rfl⟩
    · obtain ⟨hexplicit, bytes, hbytes, rfl⟩ :=
        unreadable_of_valueOf_eq_error (by decide) (by decide) hvalue
      exact ⟨workspaceKey, bytes, .inr rfl, not_gave_of_valueOf_eq_error hvalue, hexplicit, hbytes,
        rfl⟩

/-- The resolver with an explicit claim in an environment in which no variable can be read. -/
def shielded : Resolver := seeded (fun _ => .unreadable [0xff]) ⟨some "claim", none⟩

/-- Calls that apply a key without an explicit value, and the key of the claim. -/
def shieldedCalls : List Call := [.apply "A" "x", .apply pvcKey "y"]

/-- An explicit value shields its key from variables that cannot be read, and its origin stays. The
workspace has none, so that it has no value, and neither has a key that was refused one before. -/
theorem explicit_value_shields :
    shielded.Gave shieldedCalls pvcKey "claim" ∧ (∀ v, ¬ shielded.Gave shieldedCalls "A" v) ∧
      (shielded.afterAll shieldedCalls).valueOf pvcKey "z" = .ok "claim" ∧
      ((shielded.afterAll shieldedCalls).afterAll [.apply pvcKey "z"]).origin? pvcKey =
        (shielded.afterAll shieldedCalls).origin? pvcKey ∧
      (shielded.afterAll shieldedCalls).resolve.1 =
        .error (.defaults workspaceKey (Environment.unreadableMessage [0xff])) ∧
      ¬ ∃ value, (shielded.afterAll shieldedCalls).valueOf "A" "z" = .ok value := by
  have hsettled : Settled (fun _ => .unreadable [0xff]) ⟨some "claim", none⟩
      (shielded.Gave shieldedCalls) (shielded.afterAll shieldedCalls) :=
    first_success_settles _ _ shieldedCalls
  have hgave : shielded.Gave shieldedCalls pvcKey "claim" := ⟨[.apply "A" "x"], "y", [], rfl, rfl⟩
  have hfresh := (hsettled.originless "A").1 rfl
  refine ⟨hgave, hfresh, hsettled.again _ _ hgave "z", hsettled.constant _ _ hgave _, rfl, ?_⟩
  rw [hsettled.succeeds]
  rintro ⟨-, hsome | ⟨value, hvalue, -⟩ | ⟨value, hvalue, -⟩ | ⟨hreadable, -⟩⟩
  · exact not_exists.2 hfresh hsome
  · exact absurd hvalue (by simp [Overrides.value?, pvcKey, workspaceKey])
  · cases hvalue
  · exact hreadable _ rfl

end Resolver

end ControllerManager.Defaults
