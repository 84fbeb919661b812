import ControllerManager.Proofs.Registry.Entries
import ControllerManager.Webhook.Resource
import Mathlib.Data.List.Nodup
import Mathlib.Data.List.Perm.Basic
import Mathlib.Tactic.SplitIfs

/-!
# Registrations of webhooks

A list of webhooks for kinds is registered up to the first one that is rejected. A webhook is
rejected if the scheme does not know its kind or its path is taken, by what was there before or by
a webhook in front of it. Those that are accepted are mounted beside what was there, each at its
path under its own name.

## Main definitions

* `Webhook.Resource.Admissible` — webhooks that a manager accepts all of.
* `Webhook.Resource.Offends` — a webhook that is rejected behind others.
* `Webhook.Resource.Mounts` — a manager after webhooks were mounted.
* `Webhook.Resource.Agree`, `Webhook.Resource.FirstOffends` — what decides about a list where no
  path is taken.
* `Webhook.Resource.Serves` — a manager with the webhooks of a list and no others.

## Main results

* `Webhook.Resource.register_cases` — what comes of one registration.
* `Webhook.Resource.registerAll_cases` — what comes of the registrations of a list.
* `Webhook.Resource.registerAll_cases_of_empty` — and what where no path is taken.
-/

namespace ControllerManager.Webhook.Resource

variable {m m' : Manager} {r : Resource} {rs : List Resource}

/-- What a webhook mounts: its name and its handler, at its path. -/
def mounted (r : Resource) : String × Mounted := (r.path, ⟨r.name, r.handler⟩)

/-- Webhooks for known kinds at distinct paths, none of which is taken. -/
structure Admissible (m : Manager) (rs : List Resource) : Prop where
  known : ∀ r ∈ rs, m.scheme.recognizes r.kind = true
  distinct : (rs.map path).Nodup
  free : ∀ r ∈ rs, r.path ∉ m.webhooks.names

/-- A webhook for an unknown kind, or at a path that is taken by a webhook of the manager or by one
of those before it. -/
def Offends (m : Manager) (before : List Resource) (r : Resource) : Prop :=
  m.scheme.recognizes r.kind = false ∨ r.path ∈ m.webhooks.names ∨ r.path ∈ before.map path

/-- What is said against a webhook that is rejected. An unknown kind is found first. -/
def objection (r : Resource) (scheme : Scheme) : String :=
  if scheme.recognizes r.kind then "path " ++ r.path ++ " is already registered"
  else "kind " ++ r.kind.toText ++ " is not registered in the scheme"

/-- The manager `m'` is the manager `m` with these webhooks beside those that it had. -/
structure Mounts (m m' : Manager) (rs : List Resource) : Prop where
  rest : m' = { m with webhooks := m'.webhooks }
  entries : m'.webhooks.entries.Perm (m.webhooks.entries ++ rs.map mounted)

namespace Mounts

theorem nil (m : Manager) : Mounts m m [] := ⟨rfl, by simp⟩

theorem cons {m₁ : Manager} (h : Mounts m m₁ [r]) (h' : Mounts m₁ m' rs) :
    Mounts m m' (r :: rs) where
  rest := h'.rest.trans (by rw [h.rest])
  entries := by
    have hfirst := h.entries.append_right (rs.map mounted)
    rw [List.append_assoc] at hfirst
    exact h'.entries.trans hfirst

theorem scheme (h : Mounts m m' rs) : m'.scheme = m.scheme := by rw [h.rest]

/-- The paths that are taken are those that were, and those of the webhooks. -/
theorem names (h : Mounts m m' rs) : m'.webhooks.names.Perm (m.webhooks.names ++ rs.map path) := by
  have hnames := h.entries.map (·.1)
  rwa [List.map_append, List.map_map] at hnames

end Mounts

theorem head?_path (r : Resource) : r.path.toList.head? = some '/' := by
  simp [path, Webhook.path, String.toList_append]

/-- One registration mounts the webhook, or rejects it for what offends. -/
theorem register_cases (m : Manager) (r : Resource) :
    (m.scheme.recognizes r.kind = true ∧ r.path ∉ m.webhooks.names ∧
      ∃ m', r.register m = .ok m' ∧ Mounts m m' [r]) ∨
    (Offends m [] r ∧
      r.register m = .error (.registration "webhook" r.name (r.objection m.scheme))) := by
  by_cases hknown : m.scheme.recognizes r.kind = true
  · have hslash : ¬ r.path.toList.head? ≠ some '/' := not_not.2 r.head?_path
    rcases m.webhooks.insert?_cases r.path (⟨r.name, r.handler⟩ : Mounted) with
      ⟨hfree, webhooks, hinsert, hentries⟩ | ⟨htaken, hnone⟩
    · refine .inl ⟨hknown, hfree, { m with webhooks := webhooks }, ?_, rfl, hentries⟩
      rw [register, if_pos hknown, Manager.addWebhook, if_neg hslash, hinsert]
    · refine .inr ⟨.inr (.inl htaken), ?_⟩
      rw [register, if_pos hknown, Manager.addWebhook, if_neg hslash, hnone, objection,
        if_pos hknown]
      rfl
  · right
    refine ⟨.inl (Bool.eq_false_iff.2 hknown), ?_⟩
    rw [register, if_neg hknown, objection, if_neg hknown]
    rfl

theorem registerAll_cons_of_ok {m₁ : Manager} (hregister : r.register m = .ok m₁)
    (hfree : r.path ∉ m.webhooks.names) (hmounts : Mounts m m₁ [r]) :
    registerAll m (r :: rs) =
      ((registerAll m₁ rs).1, r.mounted :: (registerAll m₁ rs).2.1, (registerAll m₁ rs).2.2) := by
  have hbeside : m₁.webhooks.beside m.webhooks = [r.mounted] :=
    Catalog.beside_of_perm hmounts.entries hfree
  simp [registerAll, Collaborator.registerAll, collaborator, hregister, hbeside]

theorem registerAll_cons_of_error {e : Error} (hregister : r.register m = .error e) :
    registerAll m (r :: rs) = (m, [], some e) := by
  simp [registerAll, Collaborator.registerAll, collaborator, hregister]

/-- Webhooks are admissible behind one that was mounted exactly if all of them are together. -/
theorem admissible_cons_iff (hknown : m.scheme.recognizes r.kind = true)
    (hfree : r.path ∉ m.webhooks.names) (h : Mounts m m' [r]) :
    Admissible m (r :: rs) ↔ Admissible m' rs := by
  have hnames (p : String) : p ∈ m'.webhooks.names ↔ p ∈ m.webhooks.names ∨ p = r.path := by
    simp [h.names.mem_iff]
  constructor
  · rintro ⟨hall, hdistinct, hfrees⟩
    obtain ⟨hfirst, hrest⟩ := List.nodup_cons.1 hdistinct
    refine ⟨fun r' hr' => ?_, hrest, fun r' hr' => ?_⟩
    · rw [h.scheme]
      exact hall r' (List.mem_cons_of_mem r hr')
    · rw [hnames, not_or]
      exact ⟨hfrees r' (List.mem_cons_of_mem r hr'), fun heq =>
        hfirst (heq ▸ List.mem_map_of_mem hr')⟩
  · rintro ⟨hall, hdistinct, hfrees⟩
    rw [h.scheme] at hall
    refine ⟨List.forall_mem_cons.2 ⟨hknown, hall⟩, List.nodup_cons.2 ⟨?_, hdistinct⟩,
      List.forall_mem_cons.2 ⟨hfree, fun r' hr' hmem => hfrees r' hr' ((hnames _).2 (.inl hmem))⟩⟩
    intro hmem
    obtain ⟨r', hr', heq⟩ := List.mem_map.1 hmem
    exact hfrees r' hr' ((hnames _).2 (.inr heq))

/-- What offends behind one that was mounted offends behind all of them together. -/
theorem Offends.cons {before : List Resource} (h : Mounts m m' [r]) {r' : Resource}
    (hoffends : Offends m' before r') : Offends m (r :: before) r' := by
  unfold Offends at hoffends ⊢
  rw [h.scheme, h.names.mem_iff, List.mem_append] at hoffends
  simp only [List.map_cons, List.map_nil, List.mem_cons, List.not_mem_nil, or_false] at hoffends ⊢
  tauto

/-- **Registrations of a list** mount all webhooks if they are admissible. Otherwise they mount
those before the first that offends, and fail with what is said against that one. -/
theorem registerAll_cases (m : Manager) (rs : List Resource) :
    (Admissible m rs ∧ ∃ m', registerAll m rs = (m', rs.map mounted, none) ∧ Mounts m m' rs) ∨
    ∃ before r after m', rs = before ++ r :: after ∧ Admissible m before ∧ Offends m before r ∧
      registerAll m rs =
        (m', before.map mounted, some (.registration "webhook" r.name (r.objection m.scheme))) ∧
      Mounts m m' before := by
  induction rs generalizing m with
  | nil => exact .inl ⟨⟨by simp, List.nodup_nil, by simp⟩, m, rfl, .nil m⟩
  | cons r rs ih =>
    rcases register_cases m r with ⟨hknown, hfree, m₁, hregister, hmounts⟩ | ⟨hoffends, hregister⟩
    · rcases ih m₁ with ⟨hadmissible, m', hall, hmounts'⟩ |
        ⟨before, r', after, m', rfl, hadmissible, hoffends, hall, hmounts'⟩
      · refine .inl ⟨(admissible_cons_iff hknown hfree hmounts).2 hadmissible, m', ?_,
          hmounts.cons hmounts'⟩
        simp [registerAll_cons_of_ok hregister hfree hmounts, hall]
      · refine .inr ⟨r :: before, r', after, m', rfl,
          (admissible_cons_iff hknown hfree hmounts).2 hadmissible, hoffends.cons hmounts, ?_,
          hmounts.cons hmounts'⟩
        simp [registerAll_cons_of_ok hregister hfree hmounts, hall, hmounts.scheme]
    · refine .inr ⟨[], r, rs, m, rfl, ⟨by simp, List.nodup_nil, by simp⟩, hoffends, ?_, .nil m⟩
      simp [registerAll_cons_of_error hregister]

/-- A list with a webhook that offends behind those before it is not admissible. -/
theorem not_admissible_of_offends {before after : List Resource} (h : Offends m before r) :
    ¬ Admissible m (before ++ r :: after) := by
  rintro ⟨hknown, hdistinct, hfree⟩
  have hmem : r ∈ before ++ r :: after := by simp
  rcases h with hunknown | htaken | hbefore
  · rw [hknown r hmem] at hunknown
    cases hunknown
  · exact hfree r hmem htaken
  · rw [List.map_append, List.map_cons] at hdistinct
    exact List.disjoint_of_nodup_append hdistinct hbefore List.mem_cons_self

/-! ### Where no path is taken -/

/-- Webhooks for kinds that the scheme knows, at distinct paths. -/
structure Agree (scheme : Scheme) (rs : List Resource) : Prop where
  known : ∀ r ∈ rs, scheme.recognizes r.kind = true
  distinct : (rs.map path).Nodup

instance (scheme : Scheme) (rs : List Resource) : Decidable (Agree scheme rs) :=
  decidable_of_iff ((∀ r ∈ rs, scheme.recognizes r.kind = true) ∧ (rs.map path).Nodup)
    ⟨fun h => ⟨h.1, h.2⟩, fun h => ⟨h.known, h.distinct⟩⟩

/-- The first webhook of a list that is for an unknown kind, or at the path of one before it. -/
def FirstOffends (scheme : Scheme) (rs : List Resource) (r : Resource) : Prop :=
  ∃ before after, rs = before ++ r :: after ∧ Agree scheme before ∧
    (scheme.recognizes r.kind = false ∨ r.path ∈ before.map path)

/-- The manager has the webhooks of a list and no others: their paths in order, and at each of them
the webhook under its own name and with its own handler. -/
structure Serves (m : Manager) (rs : List Resource) : Prop where
  sorted : m.webhooks.names.Pairwise (· < ·)
  paths : m.webhooks.names.Perm (rs.map path)
  own : ∀ r ∈ rs, m.webhooks.get? r.path = some ⟨r.name, r.handler⟩

section Empty

variable (h : m.webhooks = .empty)

include h

theorem admissible_iff_agree : Admissible m rs ↔ Agree m.scheme rs :=
  ⟨fun ha => ⟨ha.known, ha.distinct⟩, fun ha => ⟨ha.known, ha.distinct, fun r _ hr => by
    rw [h] at hr
    cases hr⟩⟩

theorem Mounts.serves (hmounts : Mounts m m' rs) : Serves m' rs where
  sorted := List.pairwise_map.2 m'.webhooks.sorted
  paths := by
    have hnames := hmounts.names
    rwa [h] at hnames
  own r hr := by
    have hentries := hmounts.entries
    rw [h] at hentries
    exact Catalog.get?_of_mem (hentries.mem_iff.2 (List.mem_map_of_mem hr))

/-- On a manager without webhooks, those of a list are all mounted if they agree. Otherwise the
first that offends is what the registrations fail with. -/
theorem registerAll_cases_of_empty (rs : List Resource) :
    (Agree m.scheme rs ∧
      ∃ m', registerAll m rs = (m', rs.map mounted, none) ∧ Mounts m m' rs) ∨
    (¬ Agree m.scheme rs ∧ ∃ r, FirstOffends m.scheme rs r ∧
      (registerAll m rs).2.2 = some (.registration "webhook" r.name (r.objection m.scheme))) := by
  rcases registerAll_cases m rs with ⟨hadmissible, m', hall, hmounts⟩ |
    ⟨before, r, after, m', rfl, hadmissible, hoffends, hall, -⟩
  · exact .inl ⟨(admissible_iff_agree h).1 hadmissible, m', hall, hmounts⟩
  · refine .inr ⟨fun hagree => not_admissible_of_offends hoffends
      ((admissible_iff_agree h).2 hagree), r, ⟨before, after, rfl,
        (admissible_iff_agree h).1 hadmissible, ?_⟩, by rw [hall]⟩
    rcases hoffends with hunknown | htaken | hbefore
    · exact .inl hunknown
    · rw [h] at htaken
      cases htaken
    · exact .inr hbefore

end Empty

end ControllerManager.Webhook.Resource
