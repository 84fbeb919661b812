import ControllerManager.Http.Route
import Mathlib.Data.List.Forall2
import Mathlib.Data.List.Nodup
import Mathlib.Data.List.TakeWhile
import Mathlib.Tactic.SplitIfs

/-!
# What routes match

A path leads to a target exactly if it has the form of one of the patterns of a table. A pattern
without captures is the form of one text only, the text that is written with its braces doubled. A
pattern with a capture is the form of texts as long as one likes. So the texts that lead somewhere
are those of the written paths only if no written path has a capture.

## Main definitions

* `Http.Route.Matches` — a path has the form of a pattern.
* `Http.Route.ofText` — the pattern of literal characters.
* `Http.Route.HasParts` — the parts of a pattern, from its marks.
* `Http.Route.fill` — a long path that has the form of a pattern.
* `Http.Route.IsPlain` — a path that stands for itself.
* `Http.RouteTable.AreLiteral` — written paths that stand for texts.

## Main results

* `Http.Route.eq_written_of_parse?` — how the path of a text is written.
* `Http.RouteTable.build?_eq_some_iff` — which paths can stand in one table.
* `Http.RouteTable.exists_matches_of_lookup`, `Http.RouteTable.lookup_ne_none` — where a path leads.
* `Http.RouteTable.lookup_append`, `Http.RouteTable.lookup_segment` — what the captures hold.
* `Http.RouteTable.exists_build?_of_areLiteral`, `Http.RouteTable.lookup_of_areLiteral`,
  `Http.RouteTable.lookup_eq_none_of_areLiteral` — tables of literal paths.
-/

namespace ControllerManager.Http

namespace Route

/-- A path has the form of a pattern. -/
inductive Matches : Route → List Char → Prop
  | done : Matches [] []
  | literal {c : Char} {route : Route} {cs : List Char} (h : Matches route cs) :
    Matches (.literal c :: route) (c :: cs)
  | segment {name held rest : List Char} {route : Route} (hheld : held ≠ []) (hslash : '/' ∉ held)
      (hend : rest = [] ∨ rest.head? = some '/') (h : Matches route rest) :
    Matches (.segment name :: route) (held ++ rest)
  | rest {name cs : List Char} {route : Route} (hcs : cs ≠ []) : Matches (.rest name :: route) cs

/-! ### Patterns of literal characters -/

/-- The pattern of literal characters. -/
def ofText (text : List Char) : Route := text.map .literal

theorem ofText_injective {s t : List Char} (h : ofText s = ofText t) : s = t :=
  List.map_injective_iff.2 (fun _ _ hc => RoutePart.literal.inj hc) h

/-- Only the text itself has the form of its pattern. -/
theorem matches_ofText_iff {text path : List Char} : Matches (ofText text) path ↔ path = text := by
  constructor
  · intro h
    induction text generalizing path with
    | nil => cases h; rfl
    | cons c text ih =>
      cases h with
      | literal h => rw [ih h]
  · rintro rfl
    induction path with
    | nil => exact .done
    | cons c path ih => exact .literal ih

/-- A path that has the form of a pattern begins with the literal characters at its head. -/
theorem Matches.isPrefix {text path : List Char} {route : Route}
    (h : Matches (ofText text ++ route) path) : text <+: path := by
  induction text generalizing path with
  | nil => exact List.nil_prefix
  | cons c text ih =>
    cases h with
    | literal h => exact List.cons_prefix_cons.2 ⟨rfl, ih h⟩

/-- Patterns of literal characters conflict only when they are the same. -/
theorem conflict_ofText_iff {s t : List Char} : conflict (ofText s) (ofText t) = true ↔ s = t := by
  induction s generalizing t with
  | nil => cases t <;> simp [ofText, conflict]
  | cons c s ih =>
    cases t with
    | nil => simp [ofText, conflict]
    | cons d t =>
      have hrest := @ih t
      simp only [ofText] at hrest
      simp [ofText, conflict, hrest]

/-- Whether a character bounds captures unless it is doubled. -/
def isBrace (c : Char) : Bool := c == '\x7b' || c == '\x7d'

/-- A text as it is written in a pattern, with its braces doubled. -/
def written : List Char → List Char
  | [] => []
  | c :: cs => if isBrace c then c :: c :: written cs else c :: written cs

/-- A text without braces is written as it is. -/
theorem written_of_braceless {text : List Char} (h : ∀ c ∈ text, isBrace c = false) :
    written text = text := by
  induction text with
  | nil => rfl
  | cons c text ih =>
    rw [written, if_neg (by simp [h c List.mem_cons_self]),
      ih fun d hd => h d (List.mem_cons_of_mem _ hd)]

theorem length_le_length_written (text : List Char) : text.length ≤ (written text).length := by
  induction text with
  | nil => exact Nat.le_refl 0
  | cons c text ih =>
    rw [written]
    split_ifs <;> simp only [List.length_cons] <;> omega

/-- A text with a brace is shorter than it is written. -/
theorem length_lt_length_written {text : List Char} (h : ∃ c ∈ text, isBrace c = true) :
    text.length < (written text).length := by
  induction text with
  | nil => simp at h
  | cons c text ih =>
    have hle := length_le_length_written text
    by_cases hc : isBrace c = true
    · rw [written, if_pos hc]
      simp only [List.length_cons]
      omega
    · have hlt := ih (by simpa [hc] using h)
      rw [written, if_neg hc]
      simp only [List.length_cons]
      omega

/-- The marks of a written text. -/
theorem marks_written (text : List Char) :
    marks (written text) = text.map fun c => (c, isBrace c) := by
  induction text with
  | nil => rfl
  | cons c text ih =>
    by_cases hc : isBrace c = true
    · rw [written, if_pos hc]
      obtain rfl | rfl : c = '\x7b' ∨ c = '\x7d' := by simpa [isBrace] using hc
      · simp [marks, ih, isBrace]
      · simp [marks, ih, isBrace]
    · rw [written, if_neg hc, marks, ih]
      · simp [hc]
      · rintro cs rfl
        exact absurd rfl hc
      · rintro cs rfl
        exact absurd rfl hc

/-- A mark that bounds no capture. -/
def Mark.IsPlain (m : Mark) : Prop := isBrace m.1 = true → m.2 = true

/-- A path whose marks bound no captures is a written text. -/
theorem eq_written_of_marks {cs : List Char} (h : ∀ m ∈ marks cs, m.IsPlain) :
    cs = written ((marks cs).map (·.1)) := by
  fun_induction marks cs with
  | case1 cs ih =>
    have hrest := ih fun m hm => h m (List.mem_cons_of_mem _ hm)
    simp only [List.map_cons, written, isBrace, BEq.rfl, Bool.true_or, if_true]
    rw [← hrest]
  | case2 cs ih =>
    have hrest := ih fun m hm => h m (List.mem_cons_of_mem _ hm)
    simp only [List.map_cons, written, isBrace, BEq.rfl, Bool.or_true, if_true]
    rw [← hrest]
  | case3 c cs _ _ ih =>
    have hrest := ih fun m hm => h m (List.mem_cons_of_mem _ hm)
    have hc : ¬ isBrace c = true := fun hc =>
      Bool.false_ne_true (h (c, false) List.mem_cons_self hc)
    simp only [List.map_cons, written, if_neg hc]
    rw [← hrest]
  | case4 => rfl

/-- The parts of a pattern, from its marks. Marks that bound no capture are literal characters, a
capture starts with a brace that is not doubled, and that of a segment is followed by its end. -/
inductive HasParts : List Mark → Route → Prop
  | nil : HasParts [] []
  | literal {m : Mark} {ms : List Mark} {route : Route} (hm : m.IsPlain) (h : HasParts ms route) :
    HasParts (m :: ms) (.literal m.1 :: route)
  | segment {ms rest : List Mark} {name : List Char} {route : Route}
      (hend : atSegmentEnd rest = true) (h : HasParts rest route) :
    HasParts (('\x7b', false) :: ms) (.segment name :: route)
  | rest {ms : List Mark} {name : List Char} : HasParts (('\x7b', false) :: ms) [.rest name]

theorem hasParts_of_ofMarks {ms : List Mark} {route : Route} (h : ofMarks ms = some route) :
    HasParts ms route := by
  fun_induction ofMarks ms generalizing route with
  | case1 => cases h; exact .nil
  | case5 => cases h; exact .rest
  | case6 _ _ _ _ name _ _ _ hend ih =>
    obtain ⟨r, hr, rfl⟩ := Option.map_eq_some_iff.1 h
    exact .segment hend (ih hr)
  | case10 c doubled ms hempty hcapture hend hclose ih =>
    obtain ⟨r, hr, rfl⟩ := Option.map_eq_some_iff.1 h
    refine .literal (fun hbrace => ?_) (ih hr)
    obtain rfl | rfl : c = '\x7b' ∨ c = '\x7d' := by simpa [isBrace] using hbrace
    · rcases ms with _ | ⟨⟨first, d⟩, ms⟩
      · simpa using hend rfl rfl
      · simpa using hcapture first d ms rfl rfl
    · simpa using hclose rfl
  | _ => cases h

/-- Marks that bound no captures are a pattern of literal characters. -/
theorem ofMarks_of_plain {ms : List Mark} (h : ∀ m ∈ ms, m.IsPlain) :
    ofMarks ms = some (ofText (ms.map (·.1))) := by
  induction ms with
  | nil => simp [ofMarks, ofText]
  | cons m ms ih =>
    obtain ⟨c, doubled⟩ := m
    have hplain := h _ List.mem_cons_self
    have hrest := ih fun m hm => h m (List.mem_cons_of_mem _ hm)
    have hopen : ¬ (c = '\x7b' ∧ doubled = false) := by
      rintro ⟨rfl, rfl⟩
      exact Bool.false_ne_true (hplain rfl)
    have hclose : ¬ (c = '\x7d' ∧ doubled = false) := by
      rintro ⟨rfl, rfl⟩
      exact Bool.false_ne_true (hplain rfl)
    rw [ofMarks, hrest]
    · rfl
    · intro _ _ _ hc hd
      exact hopen ⟨hc, hd⟩
    · intro _ _ _ _ hc hd
      exact hopen ⟨hc, hd⟩
    · intro _ hc hd
      exact hopen ⟨hc, hd⟩
    · intro hc hd
      exact hclose ⟨hc, hd⟩

theorem HasParts.plain {ms : List Mark} {text : List Char} (h : HasParts ms (ofText text)) :
    text = ms.map (·.1) ∧ ∀ m ∈ ms, m.IsPlain := by
  induction text generalizing ms with
  | nil => cases h; simp
  | cons c text ih =>
    cases h with
    | literal hm h =>
      obtain ⟨rfl, hplain⟩ := ih h
      refine ⟨rfl, fun m' hm' => ?_⟩
      rcases List.mem_cons.1 hm' with rfl | hm'
      · exact hm
      · exact hplain m' hm'

/-- A path that has the form of a pattern, with more than `n` characters for every capture. -/
def fill (n : Nat) : Route → List Char
  | [] => []
  | .literal c :: route => c :: fill n route
  | .segment _ :: route => List.replicate (n + 1) 'a' ++ fill n route
  | .rest _ :: _ => List.replicate (n + 1) 'a'

/-- A pattern is one of literal characters, or it is filled with as many characters as one likes. -/
theorem eq_ofText_or_lt_fill (n : Nat) (route : Route) :
    (∃ text, route = ofText text) ∨ n < (fill n route).length := by
  induction route with
  | nil => exact .inl ⟨[], rfl⟩
  | cons part route ih =>
    cases part with
    | literal c =>
      rcases ih with ⟨text, rfl⟩ | hlt
      · exact .inl ⟨c :: text, rfl⟩
      · exact .inr (Nat.lt_succ_of_lt hlt)
    | segment name =>
      right
      simp only [fill, List.length_append, List.length_replicate]
      omega
    | rest name =>
      right
      simp only [fill, List.length_replicate]
      omega

theorem HasParts.matches_fill {ms : List Mark} {route : Route} (h : HasParts ms route) (n : Nat) :
    Matches route (fill n route) := by
  induction h with
  | nil => exact .done
  | literal _ _ ih => exact .literal ih
  | segment hend h ih =>
    refine .segment (by simp) (by simp) ?_ ih
    cases h with
    | nil => exact .inl rfl
    | literal => exact .inr (by simpa [atSegmentEnd, fill] using hend)
    | segment => simp [atSegmentEnd] at hend
    | rest => simp [atSegmentEnd] at hend
  | rest => exact .rest (by simp [fill])

/-! ### Written patterns -/

theorem parse?_eq_some {path : String} {route : Route} (h : parse? path = some route) :
    hasReservedStart path.toList.tail = false ∧ HasParts (marks path.toList) route := by
  unfold parse? at h
  split at h
  case h_1 cs hcs =>
    split_ifs at h with hstart
    split at h
    case h_1 r hr =>
      split_ifs at h
      cases h
      rw [hcs]
      exact ⟨by simpa using hstart, hasParts_of_ofMarks hr⟩
    case h_2 => cases h
  case h_2 => cases h

/-- A path that stands for a text is the text as it is written. -/
theorem eq_written_of_parse? {path : String} {text : List Char}
    (h : parse? path = some (ofText text)) : path.toList = written text := by
  obtain ⟨htext, hplain⟩ := (parse?_eq_some h).2.plain
  rw [htext]
  exact eq_written_of_marks hplain

/-- A path with a brace that stands for a text is longer than the text, which has a brace, too. -/
theorem brace_of_parse? {path : String} {text : List Char} (h : parse? path = some (ofText text))
    (hbrace : ∃ c ∈ path.toList, isBrace c = true) :
    (∃ c ∈ text, isBrace c = true) ∧ text.length < path.toList.length := by
  have hwritten := eq_written_of_parse? h
  by_cases htext : ∃ c ∈ text, isBrace c = true
  · exact ⟨htext, hwritten ▸ length_lt_length_written htext⟩
  · have hplain : ∀ c ∈ text, isBrace c = false := by simpa using htext
    rw [hwritten, written_of_braceless hplain] at hbrace
    exact absurd hbrace htext

/-- A path that stands for itself: it has no braces, and no segment of it starts with a character
that is reserved. -/
def IsPlain (path : String) : Prop :=
  (∀ c ∈ path.toList, isBrace c = false) ∧ hasReservedStart path.toList.tail = false

instance (path : String) : Decidable (IsPlain path) :=
  decidable_of_iff
    ((path.toList.all fun c => !isBrace c) = true ∧ hasReservedStart path.toList.tail = false)
    (by simp [IsPlain])

theorem parse?_of_isPlain {path : String} (hslash : path.toList.head? = some '/')
    (h : IsPlain path) : parse? path = some (ofText path.toList) := by
  obtain ⟨hbrace, hstart⟩ := h
  have hmarks := marks_written path.toList
  rw [written_of_braceless hbrace] at hmarks
  have hparts : ofMarks (marks path.toList) = some (ofText path.toList) := by
    rw [ofMarks_of_plain]
    · simp [hmarks, Function.comp_def]
    · simp [hmarks, Mark.IsPlain]
  have hcaptures : (ofText path.toList).countP isSegment = 0 := by
    simp [ofText, List.countP_eq_zero, isSegment]
  obtain ⟨cs, hcs⟩ := List.head?_eq_some_iff.1 hslash
  rw [hcs] at hparts hstart hcaptures ⊢
  simp only [parse?, hcs]
  rw [if_neg (by simpa using hstart), hparts]
  simp [hcaptures]

end Route

namespace RouteTable

variable {α : Type} {table : RouteTable α} {path : List Char}

open Route

/-- A table holds the patterns of written paths, none of which conflict. -/
theorem build?_eq_some_iff {entries : List (String × α)} :
    build? entries = some table ↔
      List.Forall₂ (fun e row => parse? e.1 = some row.1 ∧ e.2 = row.2) entries table ∧
        table.Pairwise fun a b => conflict a.1 b.1 = false := by
  induction entries generalizing table with
  | nil =>
    constructor
    · intro h
      cases h
      exact ⟨.nil, .nil⟩
    · rintro ⟨hrows, -⟩
      cases hrows
      rfl
  | cons e entries ih =>
    obtain ⟨path, target⟩ := e
    constructor
    · intro h
      obtain ⟨route, hroute, h⟩ := Option.bind_eq_some_iff.1 h
      obtain ⟨rest, hrest, h⟩ := Option.bind_eq_some_iff.1 h
      split_ifs at h with hconflict
      cases h
      obtain ⟨hrows, hpairs⟩ := ih.1 hrest
      refine ⟨.cons ⟨hroute, rfl⟩ hrows, List.pairwise_cons.2 ⟨fun row hrow => ?_, hpairs⟩⟩
      simpa using fun hrow' => hconflict (List.any_eq_true.2 ⟨row, hrow, hrow'⟩)
    · rintro ⟨hrows, hpairs⟩
      obtain _ | @⟨_, ⟨route, a⟩, _, rest, ⟨hroute, rfl⟩, hrows⟩ := hrows
      obtain ⟨hfirst, hpairs⟩ := List.pairwise_cons.1 hpairs
      have hconflict : ¬ rest.any (fun row => conflict route row.1) = true := by
        simpa using hfirst
      simp [build?, hroute, ih.2 ⟨hrows, hpairs⟩, hconflict]

theorem mem_afterLiteral {c : Char} {route : Route} {a : α} :
    (route, a) ∈ table.afterLiteral c ↔ (.literal c :: route, a) ∈ table := by
  unfold afterLiteral
  rw [List.mem_filterMap]
  constructor
  · rintro ⟨⟨r, b⟩, hmem, heq⟩
    dsimp only at heq
    split at heq
    · split_ifs at heq with hc
      cases heq
      subst hc
      exact hmem
    · cases heq
  · intro hmem
    exact ⟨_, hmem, by simp⟩

theorem mem_afterSegment {route : Route} {a : α} :
    (route, a) ∈ table.afterSegment ↔ ∃ name, (.segment name :: route, a) ∈ table := by
  unfold afterSegment
  rw [List.mem_filterMap]
  constructor
  · rintro ⟨⟨r, b⟩, hmem, heq⟩
    dsimp only at heq
    split at heq
    · cases heq
      exact ⟨_, hmem⟩
    · cases heq
  · rintro ⟨name, hmem⟩
    exact ⟨_, hmem, rfl⟩

theorem exists_of_restTarget? {a : α} (h : table.restTarget? = some a) :
    ∃ name route, (.rest name :: route, a) ∈ table := by
  obtain ⟨⟨r, b⟩, hmem, heq⟩ := List.exists_of_findSome?_eq_some h
  dsimp only at heq
  split at heq
  · cases heq
    exact ⟨_, _, hmem⟩
  · cases heq

theorem restTarget?_ne_none {a : α} {name : List Char} {route : Route}
    (h : (.rest name :: route, a) ∈ table) : table.restTarget? ≠ none := by
  intro hnone
  have := List.findSome?_eq_none_iff.1 hnone _ h
  simp at this

/-- What is left of a path behind its first segment. -/
theorem drop_takeWhile {c : Char} {cs : List Char} (h : (c :: cs).takeWhile (· != '/') ≠ []) :
    cs.drop (((c :: cs).takeWhile (· != '/')).length - 1) = (c :: cs).dropWhile (· != '/') := by
  have hdrop : (c :: cs).drop ((c :: cs).takeWhile (· != '/')).length =
      (c :: cs).dropWhile (· != '/') := by
    nth_rewrite 2 [← List.takeWhile_append_dropWhile (p := (· != '/')) (l := c :: cs)]
    exact List.drop_left
  obtain ⟨n, hn⟩ := Nat.exists_eq_succ_of_ne_zero fun hzero =>
    h (List.eq_nil_of_length_eq_zero hzero)
  rw [← hdrop, hn]
  rfl

/-- A segment is what stands before the first slash. -/
theorem span_segment {held rest : List Char} (hslash : '/' ∉ held)
    (hend : rest = [] ∨ rest.head? = some '/') :
    (held ++ rest).takeWhile (· != '/') = held ∧ (held ++ rest).dropWhile (· != '/') = rest := by
  have hheld : ∀ d ∈ held, (d != '/') = true := by
    intro d hd
    simpa using ne_of_mem_of_not_mem hd hslash
  have hrest : rest.takeWhile (· != '/') = [] ∧ rest.dropWhile (· != '/') = rest := by
    rcases rest with _ | ⟨d, rest⟩
    · simp
    · obtain rfl : d = '/' := by simpa using hend
      simp
  constructor
  · rw [List.takeWhile_append_of_pos hheld, hrest.1, List.append_nil]
  · rw [List.dropWhile_append_of_pos hheld, hrest.2]

theorem matches_cons_of_segment {name : List Char} {route : Route} {c : Char} {cs : List Char}
    (hheld : (c :: cs).takeWhile (· != '/') ≠ [])
    (h : Matches route ((c :: cs).dropWhile (· != '/'))) :
    Matches (.segment name :: route) (c :: cs) := by
  rw [← List.takeWhile_append_dropWhile (p := (· != '/')) (l := c :: cs)]
  refine .segment hheld (fun hmem => ?_) ?_ h
  · simpa using List.mem_takeWhile_imp hmem
  · rcases hrest : (c :: cs).dropWhile (· != '/') with _ | ⟨d, rest⟩
    · exact .inl rfl
    · right
      have hhead := List.head?_dropWhile_not (· != '/') (c :: cs)
      rw [hrest] at hhead
      simpa using hhead

/-- What is found for a path is the target of a pattern that it matches. -/
theorem exists_matches_of_lookup {a : α} {captures : List (List Char)}
    (h : table.lookup path = some (a, captures)) :
    ∃ route, (route, a) ∈ table ∧ Matches route path := by
  fun_induction lookup table path generalizing a captures with
  | case1 table =>
    obtain ⟨⟨route, b⟩, hfind, heq⟩ := Option.map_eq_some_iff.1 h
    cases heq
    obtain rfl : route = [] := by simpa using List.find?_some hfind
    exact ⟨[], List.mem_of_find?_eq_some hfind, .done⟩
  | case2 table c cs found hfound ih =>
    cases h
    obtain ⟨route, hmem, hmatch⟩ := ih hfound
    exact ⟨_, mem_afterLiteral.1 hmem, .literal hmatch⟩
  | case3 table c cs _ held target captures hfound =>
    rename_i ih
    cases h
    split_ifs at hfound with hheld
    obtain ⟨route, hmem, hmatch⟩ := ih hfound
    obtain ⟨name, hmem⟩ := mem_afterSegment.1 hmem
    have hne : held ≠ [] := by simpa using hheld
    rw [drop_takeWhile hne] at hmatch
    exact ⟨_, hmem, matches_cons_of_segment hne hmatch⟩
  | case4 table c cs _ held _ _ =>
    obtain ⟨b, hb, heq⟩ := Option.map_eq_some_iff.1 h
    cases heq
    obtain ⟨name, route, hmem⟩ := exists_of_restTarget? hb
    exact ⟨_, hmem, .rest (List.cons_ne_nil c cs)⟩

/-- For a path that matches a pattern something is found. -/
theorem lookup_ne_none {route : Route} {a : α} (hmatch : Matches route path)
    (h : (route, a) ∈ table) : table.lookup path ≠ none := by
  induction hmatch generalizing table with
  | done =>
    intro hnone
    rw [lookup, Option.map_eq_none_iff, List.find?_eq_none] at hnone
    exact hnone _ h rfl
  | literal _ ih =>
    have hfound := ih (mem_afterLiteral.2 h)
    rw [lookup]
    split
    · simp
    · contradiction
  | @segment name held rest route hheld hslash hend _ ih =>
    have hfound := ih (mem_afterSegment.2 ⟨name, h⟩)
    obtain ⟨hheld', hrest⟩ := span_segment hslash hend
    obtain ⟨c, cs, rfl⟩ := List.exists_cons_of_ne_nil hheld
    rw [List.cons_append] at hheld' hrest ⊢
    rw [lookup]
    split
    · simp
    · dsimp only
      rw [drop_takeWhile (by rw [hheld']; exact hheld), hrest, hheld']
      split
      · simp
      · rename_i hnone
        exact absurd (by simpa using hnone) hfound
  | rest hcs =>
    obtain ⟨c, cs, rfl⟩ := List.exists_cons_of_ne_nil hcs
    have hrest := restTarget?_ne_none h
    rw [lookup]
    split
    · simp
    · dsimp only
      split
      · simp
      · simpa using hrest

/-- What is left of the patterns that start with a text. -/
def afterText (table : RouteTable α) (text : List Char) : RouteTable α :=
  text.foldl afterLiteral table

/-- A text at the head of a path is looked up first. -/
theorem lookup_append {text : List Char} {found : α × List (List Char)}
    (h : (table.afterText text).lookup path = some found) :
    table.lookup (text ++ path) = some found := by
  induction text generalizing table with
  | nil => exact h
  | cons c text ih => rw [List.cons_append, lookup, ih h]

/-- A segment is held by its capture. -/
theorem lookup_segment {held : List Char} (hheld : held ≠ []) (hslash : '/' ∉ held)
    (name : List Char) (a : α) : lookup [([.segment name], a)] held = some (a, [held]) := by
  obtain ⟨hspan, hrest⟩ := span_segment hslash (.inl rfl)
  rw [List.append_nil] at hspan hrest
  obtain ⟨c, cs, rfl⟩ := List.exists_cons_of_ne_nil hheld
  have hnone : lookup (afterLiteral [([RoutePart.segment name], a)] c) cs = none := by
    by_contra hne
    obtain ⟨⟨b, captures⟩, hfound⟩ := Option.ne_none_iff_exists'.1 hne
    obtain ⟨route, hmem, -⟩ := exists_matches_of_lookup hfound
    cases hmem
  rw [lookup, hnone]
  dsimp only
  rw [drop_takeWhile (by rw [hspan]; exact hheld), hspan, hrest]
  simp [afterSegment, lookup]

/-- The rows of a table are the patterns of the written paths with their targets. -/
theorem mem_of_build? {entries : List (String × α)} (h : build? entries = some table)
    {route : Route} {a : α} :
    (route, a) ∈ table ↔ ∃ path, (path, a) ∈ entries ∧ parse? path = some route := by
  obtain ⟨hrows, -⟩ := build?_eq_some_iff.1 h
  clear h
  induction hrows with
  | nil => simp
  | @cons e row entries table hrow _ ih =>
    obtain ⟨p, b⟩ := e
    obtain ⟨r, b'⟩ := row
    obtain ⟨hr, rfl⟩ : parse? p = some r ∧ b = b' := hrow
    simp only [List.mem_cons, Prod.mk.injEq, ih]
    constructor
    · rintro (⟨rfl, rfl⟩ | ⟨path, hmem, hpath⟩)
      · exact ⟨p, .inl ⟨rfl, rfl⟩, hr⟩
      · exact ⟨path, .inr hmem, hpath⟩
    · rintro ⟨path, ⟨rfl, rfl⟩ | hmem, hpath⟩
      · exact .inl ⟨Option.some.inj (hpath.symm.trans hr), rfl⟩
      · exact .inr ⟨path, hmem, hpath⟩

/-- Every written path of a table is a pattern. -/
theorem exists_parse?_of_build? {entries : List (String × α)} (h : build? entries = some table)
    {e : String × α} (he : e ∈ entries) :
    ∃ route, parse? e.1 = some route ∧ (route, e.2) ∈ table := by
  obtain ⟨hrows, -⟩ := build?_eq_some_iff.1 h
  clear h
  induction hrows with
  | nil => cases he
  | @cons e' row entries table hrow _ ih =>
    rcases List.mem_cons.1 he with rfl | he
    · exact ⟨row.1, hrow.1, by rw [hrow.2]; exact List.mem_cons_self⟩
    · obtain ⟨route, hparse, hmem⟩ := ih he
      exact ⟨route, hparse, List.mem_cons_of_mem _ hmem⟩

/-! ### Tables of literal paths -/

/-- Every written path stands for a text. -/
def AreLiteral (entries : List (String × α)) : Prop :=
  ∀ e ∈ entries, ∃ text, parse? e.1 = some (ofText text)

/-- Distinct paths that stand for texts can stand in one table. -/
theorem exists_build?_of_areLiteral {entries : List (String × α)}
    (hnames : (entries.map (·.1)).Nodup) (h : AreLiteral entries) :
    ∃ table, build? entries = some table := by
  refine ⟨entries.map fun e => ((parse? e.1).getD [], e.2), build?_eq_some_iff.2 ⟨?_, ?_⟩⟩
  · rw [List.forall₂_map_right_iff, List.forall₂_same]
    intro e he
    obtain ⟨text, htext⟩ := h e he
    simp [htext]
  · rw [List.pairwise_map]
    refine (List.pairwise_map.1 hnames).imp_of_mem fun {e e'} he he' hne => ?_
    obtain ⟨text, htext⟩ := h e he
    obtain ⟨text', htext'⟩ := h e' he'
    rw [← Bool.not_eq_true, htext, htext']
    intro hconflict
    obtain rfl : text = text' := conflict_ofText_iff.1 hconflict
    exact hne (String.toList_inj.1
      ((eq_written_of_parse? htext).trans (eq_written_of_parse? htext').symm))

/-- The text that a path stands for leads to its target. -/
theorem lookup_of_areLiteral {entries : List (String × α)} (hnames : (entries.map (·.1)).Nodup)
    (h : AreLiteral entries) (hbuild : build? entries = some table) {p : String} {a : α}
    {text : List Char} (hmem : (p, a) ∈ entries) (htext : parse? p = some (ofText text)) :
    ∃ captures, table.lookup text = some (a, captures) := by
  have hrow : (ofText text, a) ∈ table := (mem_of_build? hbuild).2 ⟨p, hmem, htext⟩
  obtain ⟨⟨b, captures⟩, hfound⟩ :=
    Option.ne_none_iff_exists'.1 (lookup_ne_none (matches_ofText_iff.2 rfl) hrow)
  obtain ⟨route, hroute, hmatch⟩ := exists_matches_of_lookup hfound
  obtain ⟨p', hmem', hp'⟩ := (mem_of_build? hbuild).1 hroute
  obtain ⟨text', htext'⟩ := h _ hmem'
  obtain rfl : route = ofText text' := Option.some.inj (hp'.symm.trans htext')
  obtain rfl := matches_ofText_iff.1 hmatch
  obtain rfl : p' = p := String.toList_inj.1
    ((eq_written_of_parse? htext').trans (eq_written_of_parse? htext).symm)
  cases List.inj_on_of_nodup_map hnames hmem' hmem rfl
  exact ⟨captures, hfound⟩

/-- Any other text leads nowhere. -/
theorem lookup_eq_none_of_areLiteral {entries : List (String × α)} (h : AreLiteral entries)
    (hbuild : build? entries = some table)
    (hpath : ∀ e ∈ entries, parse? e.1 ≠ some (ofText path)) : table.lookup path = none := by
  by_contra hne
  obtain ⟨⟨a, captures⟩, hfound⟩ := Option.ne_none_iff_exists'.1 hne
  obtain ⟨route, hroute, hmatch⟩ := exists_matches_of_lookup hfound
  obtain ⟨p, hmem, hp⟩ := (mem_of_build? hbuild).1 hroute
  obtain ⟨text, htext⟩ := h _ hmem
  obtain rfl : route = ofText text := Option.some.inj (hp.symm.trans htext)
  obtain rfl := matches_ofText_iff.1 hmatch
  exact hpath _ hmem htext

end RouteTable

end ControllerManager.Http
