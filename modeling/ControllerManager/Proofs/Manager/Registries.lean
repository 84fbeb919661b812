import ControllerManager.Proofs.Manager.Registration
import ControllerManager.Proofs.Registry.Entries
import ControllerManager.Proofs.Registry.Intake
import ControllerManager.Proofs.Startup.Binding
import Mathlib.Data.List.Pairwise
import Mathlib.Data.List.Perm.Basic

/-!
# What the registries of a manager keep

A manager has four registries. An item is accepted by its registry if its name is free there, for a
webhook if its path starts with a slash besides. An item that was accepted is never replaced and
never taken out, and nothing else comes into a registry.

## Main definitions

* `Manager.Registry`, `Manager.Item` — the four registries and what they keep under a name.
* `Manager.Registration.items` — the items that a registration asks for.
* `Manager.ledger` — the items of a manager and those that it accepted since, in order.
* `Manager.Keeps` — a manager whose registries keep the items of a ledger.

## Main results

* `Manager.addItem_cases` — what comes of one item.
* `Manager.holds_registerAll` — the registries after registrations.
* `Manager.first_registrations_kept`.
-/

namespace ControllerManager.Manager

/-- The registries of a manager. -/
inductive Registry where
  | controllers
  | webhooks
  | healthz
  | readyz
  deriving DecidableEq

/-- What a registry keeps under a name. -/
abbrev Registry.Value : Registry → Type
  | .controllers => Controller
  | .webhooks => Webhook.Mounted
  | .healthz => Probe.Health
  | .readyz => Probe.Health

/-- What is entered into a registry under a name. A webhook is entered under its path. -/
structure Item where
  registry : Registry
  name : String
  value : registry.Value

namespace Item

/-- The registry of an item with its name there. -/
def place (e : Item) : Registry × String := (e.registry, e.name)

/-- The name and the value of an item of a registry. -/
def inRegistry? (r : Registry) (e : Item) : Option (String × r.Value) :=
  if h : e.registry = r then some (e.name, h ▸ e.value) else none

/-- An item that its registry takes under any free name: the path of a webhook starts with a
slash. -/
def IsWellFormed (e : Item) : Prop :=
  e.registry = .webhooks → e.name.toList.head? = some '/'

/-- What is said against an item that is refused. The path of a webhook is looked at first. -/
def objection : Item → Error
  | ⟨.controllers, name, _⟩ =>
    controllerRejected name "a controller with this name is already registered"
  | ⟨.webhooks, path, webhook⟩ =>
    webhookRejected webhook.name <|
      if path.toList.head? ≠ some '/' then "path " ++ Text.quoted path ++ " must start with '/'"
      else "path " ++ path ++ " is already registered"
  | ⟨.healthz, name, _⟩ => .registration "healthz check" name "duplicate check name"
  | ⟨.readyz, name, _⟩ => .registration "readyz check" name "duplicate check name"

end Item

/-- What a registry of a manager keeps, in its order. -/
def contents (m : Manager) : (r : Registry) → List (String × r.Value)
  | .controllers => m.controllers.entries
  | .webhooks => m.webhooks.entries
  | .healthz => m.healthz.entries
  | .readyz => m.readyz.entries

/-- The names that are taken in a registry. -/
def taken (m : Manager) (r : Registry) : List String := (m.contents r).map Prod.fst

/-- The manager with one more item. -/
def addItem (m : Manager) : Item → Except Error Manager
  | ⟨.controllers, name, controller⟩ => m.addController name controller
  | ⟨.webhooks, path, webhook⟩ => m.addWebhook path webhook.name webhook.handler
  | ⟨.healthz, name, health⟩ => m.addHealthz name health
  | ⟨.readyz, name, health⟩ => m.addReadyz name health

/-- The items of one registry, in order. -/
def inRegistry (log : List Item) (r : Registry) : List (String × r.Value) :=
  log.filterMap (Item.inRegistry? r)

variable {m m' : Manager} {log : List Item} {e : Item} {r : Registry}

/-! ### Items in their order -/

theorem mem_inRegistry_iff {name : String} {value : r.Value} :
    (name, value) ∈ inRegistry log r ↔ ⟨r, name, value⟩ ∈ log := by
  unfold inRegistry Item.inRegistry?
  rw [List.mem_filterMap]
  constructor
  · rintro ⟨⟨registry, name', value'⟩, he, heq⟩
    dsimp only at heq
    split_ifs at heq with hregistry
    subst hregistry
    cases heq
    exact he
  · intro he
    exact ⟨_, he, dif_pos rfl⟩

theorem mem_map_place_iff {name : String} :
    (r, name) ∈ log.map Item.place ↔ name ∈ (inRegistry log r).map Prod.fst := by
  simp only [List.mem_map]
  constructor
  · rintro ⟨⟨registry, name', value⟩, he, heq⟩
    cases heq
    exact ⟨_, mem_inRegistry_iff.2 he, rfl⟩
  · rintro ⟨⟨name', value⟩, he, rfl⟩
    exact ⟨_, mem_inRegistry_iff.1 he, rfl⟩

/-- Where no registry has a name twice, no place is taken twice. -/
theorem nodup_places (h : ∀ r, ((inRegistry log r).map Prod.fst).Nodup) :
    (log.map Item.place).Nodup := by
  induction log with
  | nil => exact List.nodup_nil
  | cons e log ih =>
    obtain ⟨registry, name, value⟩ := e
    rw [List.map_cons, List.nodup_cons]
    refine ⟨?_, ih fun r => ?_⟩
    · have hown : inRegistry (⟨registry, name, value⟩ :: log) registry =
          (name, value) :: inRegistry log registry := by
        simp [inRegistry, Item.inRegistry?]
      have hfirst := h registry
      rw [hown, List.map_cons, List.nodup_cons] at hfirst
      exact fun hmem => hfirst.1 (mem_map_place_iff.1 hmem)
    · have hsub : (inRegistry log r).Sublist (inRegistry (⟨registry, name, value⟩ :: log) r) :=
        (List.sublist_cons_self _ _).filterMap _
      exact (h r).sublist (hsub.map _)

/-! ### One item -/

/-- Names stand once in a registry. -/
theorem nodup_taken (m : Manager) (r : Registry) : (m.taken r).Nodup := by
  cases r with
  | controllers => exact m.controllers.nodup
  | webhooks => exact m.webhooks.nodup_names
  | healthz => exact m.healthz.nodup_names
  | readyz => exact m.readyz.nodup_names

/-- The manager `m'` is the manager `m` with one more item: a controller behind all others, anything
else in its place among the others. -/
structure Enters (m m' : Manager) (e : Item) : Prop where
  perm : ∀ r, (m'.contents r).Perm (m.contents r ++ inRegistry [e] r)
  order : m'.contents .controllers = m.contents .controllers ++ inRegistry [e] .controllers

theorem inRegistry_own (r : Registry) (name : String) (value : r.Value) :
    inRegistry [⟨r, name, value⟩] r = [(name, value)] := by
  simp [inRegistry, Item.inRegistry?]

theorem inRegistry_of_ne (h : e.registry ≠ r) : inRegistry [e] r = [] := by
  simp [inRegistry, Item.inRegistry?, h]

/-- An item of a registry whose order is that of the names. -/
theorem Enters.of_perm {registry : Registry} {name : String} {value : registry.Value}
    (hregistry : registry ≠ .controllers)
    (hsame : ∀ r, registry ≠ r → m'.contents r = m.contents r)
    (hperm : (m'.contents registry).Perm (m.contents registry ++ [(name, value)])) :
    Enters m m' ⟨registry, name, value⟩ where
  perm r := by
    by_cases hr : registry = r
    · subst hr
      rwa [inRegistry_own]
    · rw [inRegistry_of_ne hr, List.append_nil, hsame r hr]
  order := by rw [inRegistry_of_ne hregistry, List.append_nil, hsame _ hregistry]

/-- A controller. -/
theorem Enters.of_eq {name : String} {controller : Controller}
    (hsame : ∀ r, .controllers ≠ r → m'.contents r = m.contents r)
    (heq : m'.contents .controllers = m.contents .controllers ++ [(name, controller)]) :
    Enters m m' ⟨.controllers, name, controller⟩ where
  perm r := by
    by_cases hr : .controllers = r
    · subst hr
      rw [inRegistry_own]
      exact .of_eq heq
    · rw [inRegistry_of_ne hr, List.append_nil, hsame r hr]
  order := by rwa [inRegistry_own]

/-- **One item** is accepted if it is well-formed and its name is free, and refused with what is
said against it otherwise. -/
theorem addItem_cases (m : Manager) (e : Item) :
    (e.IsWellFormed ∧ e.name ∉ m.taken e.registry ∧ ∃ m', m.addItem e = .ok m' ∧ Enters m m' e) ∨
      (¬ (e.IsWellFormed ∧ e.name ∉ m.taken e.registry) ∧ m.addItem e = .error e.objection) := by
  obtain ⟨registry, name, value⟩ := e
  cases registry with
  | controllers =>
    have hform : Item.IsWellFormed ⟨.controllers, name, value⟩ := fun h => by cases h
    rcases m.controllers.add?_cases name value with ⟨hfree, c, hadd, hentries⟩ | ⟨htaken, hnone⟩
    · refine .inl ⟨hform, hfree, { m with controllers := c },
        by simp [addItem, addController, hadd], .of_eq (fun r hr => ?_) hentries⟩
      cases r <;> first | rfl | exact absurd rfl hr
    · exact .inr ⟨fun h => h.2 htaken, by simp [addItem, addController, hnone, Item.objection]⟩
  | webhooks =>
    by_cases hslash : name.toList.head? = some '/'
    · rcases m.webhooks.insert?_cases name value with ⟨hfree, c, hinsert, hperm⟩ | ⟨htaken, hnone⟩
      · refine .inl ⟨fun _ => hslash, hfree, { m with webhooks := c },
          by simp [addItem, addWebhook, hslash, hinsert],
          .of_perm (by decide) (fun r hr => ?_) hperm⟩
        cases r <;> first | rfl | exact absurd rfl hr
      · exact .inr ⟨fun h => h.2 htaken,
          by simp [addItem, addWebhook, hslash, hnone, Item.objection]⟩
    · exact .inr ⟨fun h => hslash (h.1 rfl), by simp [addItem, addWebhook, hslash, Item.objection]⟩
  | healthz =>
    have hform : Item.IsWellFormed ⟨.healthz, name, value⟩ := fun h => by cases h
    rcases m.healthz.insert?_cases name value with ⟨hfree, c, hinsert, hperm⟩ | ⟨htaken, hnone⟩
    · refine .inl ⟨hform, hfree, { m with healthz := c }, by simp [addItem, addHealthz, hinsert],
        .of_perm (by decide) (fun r hr => ?_) hperm⟩
      cases r <;> first | rfl | exact absurd rfl hr
    · exact .inr ⟨fun h => h.2 htaken, by simp [addItem, addHealthz, hnone, Item.objection]⟩
  | readyz =>
    have hform : Item.IsWellFormed ⟨.readyz, name, value⟩ := fun h => by cases h
    rcases m.readyz.insert?_cases name value with ⟨hfree, c, hinsert, hperm⟩ | ⟨htaken, hnone⟩
    · refine .inl ⟨hform, hfree, { m with readyz := c }, by simp [addItem, addReadyz, hinsert],
        .of_perm (by decide) (fun r hr => ?_) hperm⟩
      cases r <;> first | rfl | exact absurd rfl hr
    · exact .inr ⟨fun h => h.2 htaken, by simp [addItem, addReadyz, hnone, Item.objection]⟩

/-! ### Items in their order, and a manager -/

/-- The registries of a manager hold the items of a list and no others, the controllers in their
order. -/
structure Holds (m : Manager) (log : List Item) : Prop where
  perm : ∀ r, (m.contents r).Perm (inRegistry log r)
  order : m.contents .controllers = inRegistry log .controllers

theorem inRegistry_append (log log' : List Item) (r : Registry) :
    inRegistry (log ++ log') r = inRegistry log r ++ inRegistry log' r := List.filterMap_append

theorem holds_addItem (h : m.Holds log) (hadd : m.addItem e = .ok m') : m'.Holds (log ++ [e]) := by
  rcases m.addItem_cases e with ⟨-, -, m₁, hm₁, henters⟩ | ⟨-, herror⟩
  · cases hadd.symm.trans hm₁
    refine ⟨fun r => ?_, ?_⟩
    · rw [inRegistry_append]
      exact (henters.perm r).trans ((h.perm r).append_right _)
    · rw [inRegistry_append, henters.order, h.order]
  · cases hadd.symm.trans herror

/-- A name is taken exactly if an item has its place. -/
theorem Holds.mem_taken_iff (h : m.Holds log) {name : String} :
    name ∈ m.taken r ↔ (r, name) ∈ log.map Item.place := by
  rw [mem_map_place_iff, taken]
  exact ((h.perm r).map Prod.fst).mem_iff

/-- Entries of a registry as items. -/
def Registry.label (r : Registry) (entries : List (String × r.Value)) : List Item :=
  entries.map fun entry => ⟨r, entry.1, entry.2⟩

theorem inRegistry_label (r : Registry) (entries : List (String × r.Value)) :
    inRegistry (r.label entries) r = entries := by
  simp [inRegistry, Registry.label, Item.inRegistry?, List.filterMap_map, Function.comp_def]

theorem inRegistry_label_of_ne {r' : Registry} (h : r ≠ r') (entries : List (String × r.Value)) :
    inRegistry (r.label entries) r' = [] := by
  simp [inRegistry, Registry.label, Item.inRegistry?, List.filterMap_map, Function.comp_def, h]

/-- The items of a manager, registry by registry. -/
def items (m : Manager) : List Item :=
  [Registry.controllers, .webhooks, .healthz, .readyz].flatMap fun r => r.label (m.contents r)

theorem inRegistry_items (m : Manager) (r : Registry) : inRegistry m.items r = m.contents r := by
  simp only [items, List.flatMap_cons, List.flatMap_nil, inRegistry_append, List.append_nil]
  cases r <;> simp only [inRegistry_label, ne_eq, reduceCtorEq, not_false_eq_true,
    inRegistry_label_of_ne, List.append_nil, List.nil_append]

theorem holds_items (m : Manager) : m.Holds m.items where
  perm r := .of_eq (m.inRegistry_items r).symm
  order := (m.inRegistry_items .controllers).symm

/-- With a manager that was just built nothing is registered. -/
theorem items_of_build {topology : Topology} {o : Options} (h : build topology o = .ok m) :
    m.items = [] := by
  obtain ⟨kind, workload, host, election, -, -, rfl⟩ := eq_rebind_of_build h
  rfl

/-! ### Registrations -/

/-- The items that a registration asks for, in order. -/
def Registration.items : Registration → List Item
  | .controller name steps => [⟨.controllers, name, steps⟩]
  | .controllers members => Registry.controllers.label members
  | .webhook path name handler => [⟨.webhooks, path, ⟨name, handler⟩⟩]
  | .healthz name health => [⟨.healthz, name, health⟩]
  | .readyz name health => [⟨.readyz, name, health⟩]
  | .defaults _ => []

theorem addControllers_eq (m : Manager) (members : List (String × Controller)) :
    m.addControllers members =
      Intake.addAll addItem m (Registration.controllers members).items := by
  induction members generalizing m with
  | nil => rfl
  | cons member rest ih =>
    obtain ⟨name, controller⟩ := member
    simp only [addControllers, Registration.items, Registry.label, List.map_cons, Intake.addAll,
      addItem]
    cases m.addController name controller with
    | ok m' => exact ih m'
    | error e => rfl

/-- A single item that is accepted or refused. -/
theorem orKeep_eq (m : Manager) (e : Item) :
    m.orKeep (m.addItem e) = Intake.addAll addItem m [e] := by
  simp only [Intake.addAll]
  cases m.addItem e <;> rfl

/-- A registration that asks for items adds them, up to the first that is refused. -/
theorem register_eq (m : Manager) {r : Registration} (h : r.items ≠ []) :
    m.register r = Intake.addAll addItem m r.items := by
  cases r with
  | controller name steps => exact m.orKeep_eq ⟨.controllers, name, steps⟩
  | controllers members => exact m.addControllers_eq members
  | webhook path name handler => exact m.orKeep_eq ⟨.webhooks, path, ⟨name, handler⟩⟩
  | healthz name health => exact m.orKeep_eq ⟨.healthz, name, health⟩
  | readyz name health => exact m.orKeep_eq ⟨.readyz, name, health⟩
  | defaults values => exact absurd rfl h

/-- A registration that asks for no item leaves the registries alone. -/
theorem contents_register (m : Manager) {r : Registration} (h : r.items = []) (k : Registry) :
    (m.register r).1.contents k = m.contents k := by
  cases r with
  | controllers members =>
    obtain rfl := List.map_eq_nil_iff.1 h
    rfl
  | defaults values => cases k <;> rfl
  | controller | webhook | healthz | readyz => cases h

/-- The items that were accepted of registrations in order. -/
def entered (m : Manager) : List Registration → List Item
  | [] => []
  | r :: rest => Intake.accepted addItem m r.items ++ entered (m.register r).1 rest

theorem holds_register (h : m.Holds log) (r : Registration) :
    (m.register r).1.Holds (log ++ Intake.accepted addItem m r.items) := by
  by_cases hitems : r.items = []
  · rw [hitems, Intake.accepted, List.append_nil]
    refine ⟨fun k => ?_, ?_⟩
    · rw [m.contents_register hitems]
      exact h.perm k
    · rw [m.contents_register hitems]
      exact h.order
  · rw [m.register_eq hitems]
    exact Intake.holds_addAll holds_addItem h r.items

theorem holds_registerAll (h : m.Holds log) (rs : List Registration) :
    (m.registerAll rs).1.Holds (log ++ m.entered rs) := by
  induction rs generalizing m log with
  | nil => simpa [registerAll, entered] using h
  | cons r rest ih =>
    have hrest := ih (holds_register h r)
    rwa [List.append_assoc] at hrest

/-! ### Controllers in a list -/

/-- The controllers of a list are registered in front of the first whose name is taken, by a
controller that was there before or by one of the list. -/
theorem addControllers_cases (m : Manager) (members : List (String × Controller)) :
    ∃ added left, members = added ++ left ∧
      Intake.accepted addItem m (Registry.controllers.label members) =
        Registry.controllers.label added ∧
      (m.addControllers members).1.controllers.entries = m.controllers.entries ++ added ∧
      ((left = [] ∧ (m.addControllers members).2 = none) ∨
        ∃ name steps rest, left = (name, steps) :: rest ∧
          (name ∈ m.controllers.names ∨ name ∈ added.map Prod.fst) ∧
          (m.addControllers members).2 = some (Item.objection ⟨.controllers, name, steps⟩)) := by
  induction members generalizing m with
  | nil => exact ⟨[], [], rfl, rfl, by simp [addControllers], .inl ⟨rfl, rfl⟩⟩
  | cons member rest ih =>
    obtain ⟨name, steps⟩ := member
    rcases m.controllers.add?_cases name steps with ⟨-, c, hadd, hentries⟩ | ⟨htaken, hnone⟩
    · have hfirst : m.addController name steps = .ok { m with controllers := c } := by
        simp [addController, hadd]
      have hnames : ({ m with controllers := c } : Manager).controllers.names =
          m.controllers.names ++ [name] := by
        simp [Roster.names, hentries]
      obtain ⟨added, left, rfl, haccepted, hall, hend⟩ := ih { m with controllers := c }
      refine ⟨(name, steps) :: added, left, rfl, ?_, ?_, ?_⟩
      · simp only [Registry.label, List.map_cons, Intake.accepted, addItem, hfirst]
        exact congrArg _ haccepted
      · simp [addControllers, hfirst, hall, hentries]
      · simp only [addControllers, hfirst]
        rcases hend with hend | ⟨name', steps', rest', hleft, htaken, hwhy⟩
        · exact .inl hend
        · refine .inr ⟨name', steps', rest', hleft, ?_, hwhy⟩
          rw [hnames] at htaken
          simpa [or_assoc] using htaken
    · have hfirst : m.addController name steps =
          .error (Item.objection ⟨.controllers, name, steps⟩) := by
        simp [addController, hnone, Item.objection]
      exact ⟨[], (name, steps) :: rest, rfl,
        by simp [Registry.label, Intake.accepted, addItem, hfirst],
        by simp [addControllers, hfirst],
        .inr ⟨name, steps, rest, rfl, .inl htaken, by simp [addControllers, hfirst]⟩⟩

/-- Controllers are added to a set in front of the first whose name it has, by one that was there
before or by one of the list. -/
theorem foldlM_add_cases (s : ControllerSet) (controllers : List (String × Controller)) :
    (∃ s', controllers.foldlM (fun s c => s.add c.1 c.2) s = .ok s' ∧
      s'.members.entries = s.members.entries ++ controllers) ∨
    ∃ before name steps after, controllers = before ++ (name, steps) :: after ∧
      (name ∈ s.names ∨ name ∈ before.map Prod.fst) ∧
      controllers.foldlM (fun s c => s.add c.1 c.2) s =
        .error (controllerRejected name "duplicate controller name") := by
  induction controllers generalizing s with
  | nil => exact .inl ⟨s, rfl, by simp⟩
  | cons member rest ih =>
    obtain ⟨name, steps⟩ := member
    rw [List.foldlM_cons]
    rcases s.members.add?_cases name steps with ⟨-, members, hadd, hentries⟩ | ⟨htaken, hnone⟩
    · have hfirst : s.add name steps = .ok ⟨members⟩ := by simp [ControllerSet.add, hadd]
      rw [hfirst]
      rcases ih ⟨members⟩ with ⟨s', hs', hall⟩ | ⟨before, name', steps', after, rfl, htaken, herror⟩
      · exact .inl ⟨s', hs', by simp [hall, hentries]⟩
      · refine .inr ⟨(name, steps) :: before, name', steps', after, rfl, ?_, herror⟩
        simpa [ControllerSet.names, Roster.names, hentries, or_assoc] using htaken
    · refine .inr ⟨[], name, steps, rest, rfl, .inl htaken, ?_⟩
      simp [ControllerSet.add, hnone, bind, Except.bind]

/-- A set of controllers can be made exactly if no two of them have one name, and keeps them in
their order. -/
theorem exists_ofList_iff (controllers : List (String × Controller)) :
    ((∃ set, ControllerSet.ofList controllers = .ok set) ↔ (controllers.map Prod.fst).Nodup) ∧
      ∀ set, ControllerSet.ofList controllers = .ok set → set.members.entries = controllers := by
  unfold ControllerSet.ofList
  rcases foldlM_add_cases .empty controllers with
    ⟨s, hs, hentries⟩ | ⟨before, name, steps, after, rfl, htaken, herror⟩
  · have hall : s.members.entries = controllers := hentries
    refine ⟨iff_of_true ⟨s, hs⟩ (hall ▸ s.members.nodup), fun set hset => ?_⟩
    cases hset.symm.trans hs
    exact hall
  · have htwice : name ∈ before.map Prod.fst := htaken.resolve_left (by simp [ControllerSet.names,
      ControllerSet.empty, Roster.names_empty])
    refine ⟨iff_of_false (fun ⟨set, hset⟩ => ?_) fun hnodup => ?_, fun set hset => ?_⟩
    · cases hset.symm.trans herror
    · rw [List.map_append, List.map_cons] at hnodup
      exact List.disjoint_of_nodup_append hnodup htwice List.mem_cons_self
    · cases hset.symm.trans herror

/-! ### What a manager keeps -/

/-- The manager after registrations in order. -/
def after (m : Manager) (rs : List Registration) : Manager := (m.registerAll rs).1

/-- The items of a manager, and those that it accepted of registrations since, in order. -/
def ledger (m : Manager) (rs : List Registration) : List Item := m.items ++ m.entered rs

theorem holds_after (m : Manager) (rs : List Registration) : (m.after rs).Holds (m.ledger rs) :=
  holds_registerAll m.holds_items rs

theorem ledger_append (m : Manager) (rs rs' : List Registration) :
    m.ledger (rs ++ rs') = m.ledger rs ++ (m.after rs).entered rs' := by
  have hentered : m.entered (rs ++ rs') = m.entered rs ++ (m.after rs).entered rs' := by
    induction rs generalizing m with
    | nil => rfl
    | cons r rest ih =>
      simp only [List.cons_append, entered, ih, List.append_assoc]
      rfl
  rw [ledger, hentered, ledger, List.append_assoc]

theorem ledger_concat (m : Manager) (rs : List Registration) (r : Registration) :
    m.ledger (rs ++ [r]) = m.ledger rs ++ Intake.accepted addItem (m.after rs) r.items := by
  rw [ledger_append, entered, entered, List.append_nil]

/-- A manager whose registries keep the items of a ledger. -/
structure Keeps (m : Manager) (log : List Item) : Prop where
  /-- An item is in its registry under its name with its own value, and nothing else is. -/
  mem_contents_iff : ∀ e : Item, (e.name, e.value) ∈ m.contents e.registry ↔ e ∈ log
  /-- No name was accepted twice by one registry. -/
  places : (log.map Item.place).Nodup
  nodup : ∀ r, (m.taken r).Nodup
  /-- Controllers are listed in the order in which they were accepted. -/
  controllers : m.controllers.names = (inRegistry log .controllers).map Prod.fst
  /-- Webhooks are listed in the order of their paths. -/
  webhooks : m.webhooks.names.Pairwise (· < ·)
  webhook_found : ∀ path webhook, m.webhooks.get? path = some webhook ↔
    ⟨.webhooks, path, webhook⟩ ∈ log
  healthz_found : ∀ name health, m.healthz.get? name = some health ↔ ⟨.healthz, name, health⟩ ∈ log
  readyz_found : ∀ name health, m.readyz.get? name = some health ↔ ⟨.readyz, name, health⟩ ∈ log

theorem Holds.keeps (h : m.Holds log) : m.Keeps log := by
  have hmem (e : Item) : (e.name, e.value) ∈ m.contents e.registry ↔ e ∈ log :=
    (h.perm e.registry).mem_iff.trans mem_inRegistry_iff
  exact {
    mem_contents_iff := hmem
    places := nodup_places fun r => ((h.perm r).map Prod.fst).nodup_iff.1 (m.nodup_taken r)
    nodup := m.nodup_taken
    controllers := congrArg (List.map Prod.fst) h.order
    webhooks := List.pairwise_map.2 m.webhooks.sorted
    webhook_found := fun path webhook =>
      Catalog.get?_eq_some_iff.trans (hmem ⟨.webhooks, path, webhook⟩)
    healthz_found := fun name health =>
      Catalog.get?_eq_some_iff.trans (hmem ⟨.healthz, name, health⟩)
    readyz_found := fun name health =>
      Catalog.get?_eq_some_iff.trans (hmem ⟨.readyz, name, health⟩) }

/-- How a registration of the one item `e` behind others is judged. -/
structure Judges (m : Manager) (rs : List Registration) (r : Registration) (e : Item) : Prop where
  accepted_iff : ((m.after rs).register r).2 = none ↔
    e.IsWellFormed ∧ e.place ∉ (m.ledger rs).map Item.place
  /-- An item that is refused changes nothing. -/
  refused : ((m.after rs).register r).2 ≠ none →
    (m.after rs).register r = (m.after rs, some e.objection) ∧ m.ledger (rs ++ [r]) = m.ledger rs
  entered : ((m.after rs).register r).2 = none → m.ledger (rs ++ [r]) = m.ledger rs ++ [e]

theorem judges (m : Manager) (rs : List Registration) {r : Registration} {e : Item}
    (h : r.items = [e]) : Judges m rs r e := by
  have hregister := (m.after rs).register_eq (r := r) (by simp [h])
  have hledger := m.ledger_concat rs r
  have hplace : e.name ∈ (m.after rs).taken e.registry ↔ e.place ∈ (m.ledger rs).map Item.place :=
    (m.holds_after rs).mem_taken_iff
  rw [h] at hregister hledger
  simp only [Intake.addAll, Intake.accepted] at hregister hledger
  rcases (m.after rs).addItem_cases e with ⟨hform, hfree, m', hadd, -⟩ | ⟨hnot, herror⟩
  · simp only [hadd] at hregister hledger
    rw [hplace] at hfree
    exact ⟨iff_of_true (by rw [hregister]) ⟨hform, hfree⟩,
      fun hne => absurd (by rw [hregister]) hne, fun _ => hledger⟩
  · simp only [herror, List.append_nil] at hregister hledger
    rw [hplace] at hnot
    refine ⟨iff_of_false ?_ hnot, fun _ => ⟨hregister, hledger⟩, ?_⟩
    · rw [hregister]
      exact Option.some_ne_none _
    · rw [hregister]
      exact fun hnone => absurd hnone (Option.some_ne_none _)

/-- A set of controllers is registered behind others in front of the first whose name is taken. -/
def TakesSet (m : Manager) (rs : List Registration) (set : ControllerSet) : Prop :=
  ∃ added left, set.members.entries = added ++ left ∧
    m.ledger (rs ++ [.controllers set.members.entries]) =
      m.ledger rs ++ Registry.controllers.label added ∧
    (∀ member ∈ added, member.1 ∉ (m.after rs).controllers.names) ∧
    ((left = [] ∧ ((m.after rs).register (.controllers set.members.entries)).2 = none) ∨
      ∃ name steps rest, left = (name, steps) :: rest ∧ name ∈ (m.after rs).controllers.names ∧
        ((m.after rs).register (.controllers set.members.entries)).2 =
          some (Item.objection ⟨.controllers, name, steps⟩))

theorem takesSet (m : Manager) (rs : List Registration) (set : ControllerSet) :
    TakesSet m rs set := by
  obtain ⟨added, left, hcut, haccepted, hentries, hend⟩ :=
    (m.after rs).addControllers_cases set.members.entries
  have hnames := ((m.after rs).addControllers set.members.entries).1.controllers.nodup
  rw [hentries, List.map_append] at hnames
  refine ⟨added, left, hcut, ?_, fun member hmember htaken => ?_, ?_⟩
  · rw [ledger_concat, ← haccepted]
    rfl
  · exact List.disjoint_of_nodup_append hnames htaken (List.mem_map_of_mem hmember)
  · rcases hend with hend | ⟨name, steps, rest, hleft, htaken, hwhy⟩
    · exact .inl hend
    · -- The names of a set are distinct, so it was taken before.
      refine .inr ⟨name, steps, rest, hleft, htaken.resolve_right fun hadded => ?_, hwhy⟩
      have hset := set.members.nodup
      rw [hcut, hleft, List.map_append, List.map_cons] at hset
      exact List.disjoint_of_nodup_append hset hadded List.mem_cons_self

/-- **First registrations stay, and nothing else does.** After any registrations the registries of a
manager keep the items that it had and those that it accepted since, with the values with which they
were accepted, and go on to keep them. A single item is accepted exactly if it is well-formed and
its name was not accepted before by its registry; otherwise nothing changes. A set of controllers is
taken up to the first whose name is taken. With a manager that was just built nothing is registered,
and a set of controllers has no name twice and keeps its order. -/
theorem first_registrations_kept (m : Manager) (rs : List Registration) :
    (m.after rs).Keeps (m.ledger rs) ∧
    (∀ rs', ∀ e ∈ m.ledger rs, (e.name, e.value) ∈ (m.after (rs ++ rs')).contents e.registry) ∧
    (∀ r e, r.items = [e] → Judges m rs r e) ∧
    (∀ set, TakesSet m rs set) ∧
    (∀ topology o, build topology o = .ok m → m.items = []) ∧
    ∀ controllers : List (String × Controller),
      ((∃ set, ControllerSet.ofList controllers = .ok set) ↔ (controllers.map Prod.fst).Nodup) ∧
      ∀ set, ControllerSet.ofList controllers = .ok set → set.members.entries = controllers := by
  refine ⟨(m.holds_after rs).keeps, fun rs' e he => ?_, fun r e => m.judges rs, m.takesSet rs,
    fun topology o => items_of_build, exists_ofList_iff⟩
  refine ((m.holds_after (rs ++ rs')).keeps.mem_contents_iff e).2 ?_
  rw [ledger_append]
  exact List.mem_append_left _ he

end ControllerManager.Manager
