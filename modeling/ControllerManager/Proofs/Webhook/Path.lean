import ControllerManager.Proofs.Manager.Lapse
import ControllerManager.Proofs.Webhook.Registration
import Mathlib.Data.List.Forall2
import Mathlib.Tactic.SplitIfs
import Mathlib.Tactic.Tauto

/-!
# Paths of webhooks

The path of a webhook joins its purpose, its group, its version and its kind by dashes. The parts
may contain dashes themselves, so that what is left of them in a path is the sequence of the pieces
between all dashes. This tells two webhooks apart if their versions have as many dashes, and so have
their kinds. In a group, a dot counts as a dash, and the empty group goes by a word that another
group may have as its name.

## Main definitions

* `Webhook.pieces`, `Webhook.Resource.pieces` — the pieces of a text, and of what a path is made of.
* `Webhook.GroupsAlike` — groups that a path does not tell apart.
* `Webhook.Resource.DiffersFrom` — webhooks that a path can tell apart.
* `Webhook.Resource.Collide` — webhooks of different groups that have the same path.

## Main results

* `Webhook.Resource.path_eq_iff` — when two webhooks have the same path.
* `Webhook.Resource.distinct_paths_iff`.
-/

namespace ControllerManager

namespace Text

/-! ### Dashes in lower case -/

/-- Letters above U+007F do not become a dash in lower case. -/
theorem shift_lowerShifts_ne {c : Char} (hc : 0x80 ≤ c.toNat) : shift lowerShifts c ≠ '-' := by
  have htable : ∀ r ∈ lowerShifts, (45 : Int) < r.first + r.offset := by decide +kernel
  unfold shift
  split
  case h_1 r hfind =>
    have hoffset := htable r (List.mem_of_find?_eq_some hfind)
    have hcontains := List.find?_some hfind
    simp only [ShiftRange.contains, Bool.and_eq_true, decide_eq_true_eq] at hcontains
    intro heq
    have hvalue := congrArg Char.toNat heq
    by_cases hvalid : (c.toNat + r.offset).toNat.isValidChar
    · rw [Char.ofNat, dif_pos hvalid] at hvalue
      have hdash : (c.toNat + r.offset).toNat = 45 := hvalue
      omega
    · rw [Char.ofNat, dif_neg hvalid] at hvalue
      exact absurd hvalue (by decide)
  case h_2 =>
    rintro rfl
    exact absurd hc (by decide)

/-- A dash is a dash in lower case, and nothing else becomes one. -/
theorem count_lowerChar (c : Char) : (lowerChar c).count '-' = if c = '-' then 1 else 0 := by
  have hletter : ∀ n < 0x80, (Char.ofNat n).toLower = '-' → Char.ofNat n = '-' := by decide
  unfold lowerChar
  by_cases hdash : c = '-'
  · subst hdash
    decide
  · rw [if_neg hdash, List.count_eq_zero]
    split_ifs with hascii
    · rw [List.mem_singleton]
      intro heq
      have hc := hletter c.toNat hascii
      rw [Char.ofNat_toNat] at hc
      exact hdash (hc heq.symm)
    · decide
    · rw [List.mem_singleton]
      exact (shift_lowerShifts_ne (Nat.not_lt.1 hascii)).symm

/-- A text has as many dashes in lower case. -/
theorem count_lower (s : String) : (lower s).toList.count '-' = s.toList.count '-' := by
  have hfrom (seen cs : List Char) : (lowerFrom seen cs).count '-' = cs.count '-' := by
    induction cs generalizing seen with
    | nil => rfl
    | cons c cs ih =>
      rw [lowerFrom, List.count_append, ih, List.count_cons, Nat.add_comm (cs.count '-')]
      congr 1
      by_cases hsigma : (c == '\u03a3') = true
      · obtain rfl := eq_of_beq hsigma
        rw [if_pos hsigma, if_neg (by decide : ¬ ('\u03a3' == '-') = true)]
        split_ifs <;> decide
      · rw [if_neg hsigma, count_lowerChar]
        simp
  rw [lower, String.toList_ofList, hfrom]

end Text

namespace Webhook

/-! ### Pieces between dashes -/

/-- The pieces of a text between its dashes. -/
def pieces (s : String) : List (List Char) := s.toList.splitOn '-'

/-- The number of dashes of a text. -/
def dashes (s : String) : Nat := s.toList.count '-'

theorem length_pieces (s : String) : (pieces s).length = dashes s + 1 := by
  unfold pieces dashes
  induction s.toList with
  | nil => simp
  | cons c cs ih =>
    rw [List.splitOn_cons_eq_if_modifyHead, List.count_cons]
    split_ifs <;> simp [ih]

/-- A text is known by its pieces. -/
theorem pieces_injective {s t : String} (h : pieces s = pieces t) : s = t := by
  have hjoin := congrArg (['-'].intercalate ·) h
  simp only [pieces, List.intercalate_splitOn] at hjoin
  exact String.toList_injective hjoin

/-- The pieces of two texts with a dash between them. -/
theorem pieces_append (s t : String) : pieces (s ++ "-" ++ t) = pieces s ++ pieces t := by
  have htext : (s ++ "-" ++ t).toList = s.toList ++ '-' :: t.toList := by simp
  rw [pieces, htext, List.splitOn_append_cons_self]
  rfl

/-! ### Groups -/

/-- A group by the name that it has in a path. -/
def groupName (group : String) : String := if group.isEmpty then "core" else group

/-- Two groups whose names are the same but for dots in the place of dashes. -/
def GroupsAlike (g g' : String) : Prop :=
  List.Forall₂ (fun c d => c = d ∨ (c ∈ ['.', '-'] ∧ d ∈ ['.', '-'])) (groupName g).toList
    (groupName g').toList

theorem groupSegment_eq (g : String) : groupSegment g =
    String.ofList ((groupName g).toList.map fun c => if c = '.' then '-' else c) := by
  unfold groupSegment groupName
  split_ifs <;> rfl

/-- Groups that are alike have the same segment, and no others do. -/
theorem groupSegment_eq_iff {g g' : String} :
    groupSegment g = groupSegment g' ↔ GroupsAlike g g' := by
  have hchar (c d : Char) : (if c = '.' then '-' else c) = (if d = '.' then '-' else d) ↔
      c = d ∨ (c ∈ ['.', '-'] ∧ d ∈ ['.', '-']) := by
    simp only [List.mem_cons, List.not_mem_nil, or_false]
    split_ifs <;> grind
  rw [groupSegment_eq, groupSegment_eq, String.ofList_inj, ← List.forall₂_eq_eq_eq,
    List.forall₂_map_left_iff, List.forall₂_map_right_iff]
  simp only [hchar]
  rfl

/-! ### Paths -/

namespace Resource

variable {r r' : Resource}

/-- The pieces of the group, the version and the kind of a webhook, as they stand in its path. -/
def pieces (r : Resource) : List (List Char) :=
  Webhook.pieces (groupSegment r.kind.group) ++ Webhook.pieces r.kind.version ++
    Webhook.pieces (Text.lower r.kind.kind)

theorem pieces_path (r : Resource) :
    Webhook.pieces r.path = ("/" ++ r.purpose.name).toList :: r.pieces := by
  have hpurpose : Webhook.pieces ("/" ++ r.purpose.name) = [("/" ++ r.purpose.name).toList] := by
    cases r.purpose <;> decide
  rw [path, Webhook.path, pieces_append, pieces_append, pieces_append, hpurpose, pieces]
  simp

/-- **When two webhooks have the same path**: they have the same purpose, and the same pieces. -/
theorem path_eq_iff : r.path = r'.path ↔ r.purpose = r'.purpose ∧ r.pieces = r'.pieces := by
  constructor
  · intro h
    have hpieces := congrArg Webhook.pieces h
    rw [pieces_path, pieces_path, List.cons.injEq, String.toList_inj] at hpieces
    refine ⟨?_, hpieces.2⟩
    revert hpieces
    cases r.purpose <;> cases r'.purpose <;> simp [Purpose.name]
  · rintro ⟨hpurpose, hpieces⟩
    apply pieces_injective
    rw [pieces_path, pieces_path, hpurpose, hpieces]

/-- Two webhooks that differ in what a path can tell apart: their purpose, their group, their
version, or their kind in lower case. -/
def DiffersFrom (r r' : Resource) : Prop :=
  r.purpose ≠ r'.purpose ∨ ¬ GroupsAlike r.kind.group r'.kind.group ∨
    r.kind.version ≠ r'.kind.version ∨ Text.lower r.kind.kind ≠ Text.lower r'.kind.kind

/-- Where the dashes of the versions and of the kinds are as many, the pieces are those of the same
parts. -/
theorem pieces_eq_iff (hversion : dashes r.kind.version = dashes r'.kind.version)
    (hkind : dashes r.kind.kind = dashes r'.kind.kind) :
    r.pieces = r'.pieces ↔ groupSegment r.kind.group = groupSegment r'.kind.group ∧
      r.kind.version = r'.kind.version ∧ Text.lower r.kind.kind = Text.lower r'.kind.kind := by
  constructor
  · intro h
    have hlower : dashes (Text.lower r.kind.kind) = dashes (Text.lower r'.kind.kind) := by
      simpa only [dashes, Text.count_lower] using hkind
    obtain ⟨hfront, hlast⟩ := List.append_inj' h (by rw [length_pieces, length_pieces, hlower])
    obtain ⟨hfirst, hmiddle⟩ :=
      List.append_inj' hfront (by rw [length_pieces, length_pieces, hversion])
    exact ⟨pieces_injective hfirst, pieces_injective hmiddle, pieces_injective hlast⟩
  · rintro ⟨hgroup, hversion, hkind⟩
    rw [pieces, pieces, hgroup, hversion, hkind]

theorem path_ne_iff (hversion : dashes r.kind.version = dashes r'.kind.version)
    (hkind : dashes r.kind.kind = dashes r'.kind.kind) :
    r.path ≠ r'.path ↔ r.DiffersFrom r' := by
  rw [Ne, path_eq_iff, pieces_eq_iff hversion hkind, groupSegment_eq_iff, DiffersFrom]
  tauto

/-- Two webhooks for known kinds at free paths are both accepted exactly if these differ. -/
theorem registerAll_pair_iff {m : Manager} (hknown : m.scheme.recognizes r.kind = true)
    (hknown' : m.scheme.recognizes r'.kind = true) (hfree : r.path ∉ m.webhooks.names)
    (hfree' : r'.path ∉ m.webhooks.names) :
    (registerAll m [r, r']).2 = ([r.mounted, r'.mounted], none) ↔ r.path ≠ r'.path := by
  have hadmissible : Admissible m [r, r'] ↔ r.path ≠ r'.path := by
    constructor
    · intro h
      simpa using h.distinct
    · intro h
      exact ⟨by simp [hknown, hknown'], by simpa using h, by simp [hfree, hfree']⟩
  rw [← hadmissible]
  rcases registerAll_cases m [r, r'] with ⟨h, m', hall, -⟩ |
    ⟨before, r'', after, m', hlist, -, hoffends, hall, -⟩
  · simp [hall, h]
  · have hnot : ¬ Admissible m [r, r'] := hlist ▸ not_admissible_of_offends hoffends
    simp [hall, hnot]

/-- **What a path tells apart.** Two webhooks for known kinds have the same path exactly if they
have the same purpose and the same pieces between all dashes. Where their versions have as many
dashes, and their kinds too, the paths are different exactly if the webhooks differ in what a path
can tell apart. Both webhooks are accepted exactly if their paths are different. -/
theorem distinct_paths_iff (m : Manager) (r r' : Resource)
    (hknown : m.scheme.recognizes r.kind = true) (hknown' : m.scheme.recognizes r'.kind = true)
    (hfree : r.path ∉ m.webhooks.names) (hfree' : r'.path ∉ m.webhooks.names) :
    (r.path = r'.path ↔ r.purpose = r'.purpose ∧ r.pieces = r'.pieces) ∧
      (dashes r.kind.version = dashes r'.kind.version →
        dashes r.kind.kind = dashes r'.kind.kind → (r.path ≠ r'.path ↔ r.DiffersFrom r')) ∧
      ((registerAll m [r, r']).2 = ([r.mounted, r'.mounted], none) ↔ r.path ≠ r'.path) :=
  ⟨path_eq_iff, path_ne_iff, registerAll_pair_iff hknown hknown' hfree hfree'⟩

/-- A manager without webhooks, whose scheme knows these kinds. -/
def knowing (kinds : List GroupVersionKind) : Manager :=
  { Manager.soleManager 0 [] with
    scheme := (Scheme.empty.addAll (kinds.map fun kind => (kind, .namespaced))).1 }

/-- A validating webhook for a kind, which allows everything. -/
def judge (group version kind : String) : Resource :=
  ⟨kind, .validate, ⟨group, version, kind⟩, Admission.allowAll⟩

/-- Two kinds of one version with dashes in all parts, of which one is the other with more behind
it. -/
theorem judges_told_apart :
    let r := judge "apps.dev-1" "v1-beta" "Re-Lease"
    let r' := judge "apps.dev-1" "v1-beta" "Re-LeasePlan"
    let m := knowing [r.kind, r'.kind]
    m.scheme.recognizes r.kind = true ∧ m.scheme.recognizes r'.kind = true ∧
      m.webhooks.names = [] ∧ r.path ≠ r'.path ∧
        (registerAll m [r, r']).2 = ([r.mounted, r'.mounted], none) := by
  intro r r' m
  have hknown : m.scheme.recognizes r.kind = true := by decide +kernel
  have hknown' : m.scheme.recognizes r'.kind = true := by decide +kernel
  obtain ⟨-, hdiffers, haccepted⟩ := distinct_paths_iff m r r' hknown hknown' (List.not_mem_nil)
    (List.not_mem_nil)
  have hkind : Text.lower r.kind.kind ≠ Text.lower r'.kind.kind := by decide +kernel
  have hpath := (hdiffers (by decide) (by decide)).2 (.inr (.inr (.inr hkind)))
  exact ⟨hknown, hknown', rfl, hpath, haccepted.2 hpath⟩

/-- Two webhooks in different groups, for kinds that one scheme knows, have the same path, and the
second of them is rejected for it. -/
def Collide (r r' : Resource) : Prop :=
  (knowing [r.kind, r'.kind]).scheme.recognizes r.kind = true ∧
    (knowing [r.kind, r'.kind]).scheme.recognizes r'.kind = true ∧
    r.kind.group ≠ r'.kind.group ∧ r.path = r'.path ∧
      (registerAll (knowing [r.kind, r'.kind]) [r, r']).2.2 = some (.registration "webhook" r'.name
        ("path " ++ r'.path ++ " is already registered"))

/-- **Webhooks that no path tells apart**: one whose group has a dot where the other has a dash, one
that has in its group what the other has in its version, and one whose group is empty. -/
theorem groups_not_told_apart :
    Collide (judge "a.b" "v1" "Release") (judge "a-b" "v1" "Release") ∧
      Collide (judge "a-b" "v1" "Release") (judge "a" "b-v1" "Release") ∧
        Collide (judge "" "v1" "Pod") (judge "core" "v1" "Pod") := by
  unfold Collide
  decide +kernel

end Resource

end Webhook

end ControllerManager
