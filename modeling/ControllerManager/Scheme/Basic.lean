import ControllerManager.Error
import ControllerManager.Text.Lower

/-!
# Schemes

The kinds of resources that the manager knows, each with its scope and the plural under which the
API serves it.

## Main definitions

* `GroupVersionKind` — the name of a kind.
* `Scheme` — the known kinds.
* `Scheme.add` — the scheme with one more kind.
-/

namespace ControllerManager

/-- The name of a kind of resources. -/
structure GroupVersionKind where
  group : String
  version : String
  kind : String
  deriving Repr, DecidableEq

namespace GroupVersionKind

/-- The three parts with slashes between them. -/
def toText (g : GroupVersionKind) : String := g.group ++ "/" ++ g.version ++ "/" ++ g.kind

/-- The version together with the group, where there is one. -/
def apiVersion (g : GroupVersionKind) : String :=
  if g.group.isEmpty then g.version else g.group ++ "/" ++ g.version

end GroupVersionKind

/-- Whether the resources of a kind live in namespaces. -/
inductive Scope where
  | namespaced
  | cluster
  deriving Repr, DecidableEq

/-- The word for a scope. -/
def Scope.name : Scope → String
  | .namespaced => "Namespaced"
  | .cluster => "Cluster"

/-- The plurals that follow no rule. -/
def irregularPlurals : List (String × String) :=
  [("endpoints", "endpoints"), ("endpointslices", "endpointslices"), ("nodemetrics", "nodes"),
   ("podmetrics", "pods")]

/-- Whether a word takes `es` in its plural. -/
def takesEs (word : List Char) : Bool :=
  match word.reverse with
  | 's' :: _ | 'x' :: _ | 'z' :: _ => true
  | 'h' :: 'c' :: _ | 'h' :: 's' :: _ => true
  | _ => false

/-- The plural of a word in lower case. A final `y` becomes `ies` after a consonant, which is the
character whose index is the length of the word in bytes less two. -/
def pluralOf (word : String) : String :=
  match irregularPlurals.find? (·.1 == word) with
  | some (_, plural) => plural
  | none =>
    let cs := word.toList
    if takesEs cs then word ++ "es"
    else if cs.getLast? == some 'y' then
      match cs[word.utf8ByteSize - 2]? with
      | some c =>
        if ['a', 'e', 'i', 'o', 'u'].contains c then word ++ "s"
        else String.ofList cs.dropLast ++ "ies"
      | none => word ++ "s"
    else word ++ "s"

/-- The plural under which the API serves a kind. -/
def GroupVersionKind.plural (g : GroupVersionKind) : String := pluralOf (Text.lowerAscii g.kind)

/-- A known kind. -/
structure KnownKind where
  gvk : GroupVersionKind
  plural : String
  scope : Scope
  deriving Repr, DecidableEq

/-- The known kinds in the order of their registration, each once. -/
structure Scheme where
  kinds : List KnownKind
  distinct : (kinds.map KnownKind.gvk).Nodup
  deriving Repr, DecidableEq

namespace Scheme

/-- The scheme without kinds. -/
def empty : Scheme := ⟨[], List.nodup_nil⟩

instance : Inhabited Scheme := ⟨empty⟩

/-- What is known of a kind. -/
def get? (s : Scheme) (gvk : GroupVersionKind) : Option KnownKind :=
  s.kinds.find? fun k => k.gvk = gvk

/-- Whether a kind is known. -/
def recognizes (s : Scheme) (gvk : GroupVersionKind) : Bool := (s.get? gvk).isSome

/-- The number of known kinds. -/
def size (s : Scheme) : Nat := s.kinds.length

theorem not_mem_of_get?_eq_none {s : Scheme} {gvk : GroupVersionKind} (h : s.get? gvk = none) :
    gvk ∉ s.kinds.map KnownKind.gvk := by
  intro hm
  obtain ⟨k, hk, hg⟩ := List.mem_map.mp hm
  simpa [hg] using List.find?_eq_none.mp h k hk

/-- The scheme with one more kind. A kind has a version and a name, and keeps the scope under which
it was registered first. -/
def add (s : Scheme) (gvk : GroupVersionKind) (scope : Scope) : Except Error Scheme :=
  if gvk.version.isEmpty || gvk.kind.isEmpty then
    .error (.registration "scheme kind" gvk.toText "version and kind must be non-empty")
  else
    match h : s.get? gvk with
    | some known =>
      if known.scope = scope then .ok s
      else
        .error (.registration "scheme kind" gvk.kind
          ("already registered with scope " ++ known.scope.name))
    | none =>
      .ok ⟨s.kinds ++ [⟨gvk, gvk.plural, scope⟩], by
        rw [List.map_append, List.nodup_append]
        refine ⟨s.distinct, by simp, fun a ha b hb hab => not_mem_of_get?_eq_none h ?_⟩
        simp only [List.map_cons, List.map_nil, List.mem_singleton] at hb
        subst hab hb
        exact ha⟩

end Scheme

end ControllerManager
