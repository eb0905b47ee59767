import Covenant.Proofs.Naming.Braced
import Covenant.Proofs.Text.Blank
/-!
# Ends of inlined texts

What inlining makes of the end of a text, and of slashes that stand there.

* `oneLine_append`: visible characters at the end of a text stay there, with a space before them if
  the text before them is not empty and ends in a blank (`gapAfter`).
* `inline_append_slashes`: slashes at the end stay there too, and `slashGap` is the space that comes
  before them.
* `EndsIn`: a text ends in a visible character but for characters that inlining removes and, behind
  these, blanks.
* `getLast?_inline_slash_iff` and `slashGap_ne_nil_iff` say by such ends when an inlined text ends
  in a slash, and when a space comes before slashes behind it.
-/

namespace Covenant.Naming

open Covenant.Text

variable {s t hidden blanks : List Char} {c : Char}

/-! ## 1. Visible ends -/

theorem oneLine_append_blanks (h : ∀ d ∈ blanks, isBlank d = true) (s : List Char) :
    oneLine (s ++ blanks) = oneLine s := by
  induction blanks using List.reverseRecOn with
  | nil => rw [List.append_nil]
  | append_singleton more d ih =>
    obtain ⟨earlier, last⟩ := List.forall_mem_append.mp h
    have blank : isBlank d = true := last d (List.mem_singleton_self d)
    rw [← ih earlier, ← List.append_assoc, oneLine, fields, splitWhere_append blank]
    simp [oneLine, fields, splitWhere_eq]

/-- The space that stands between a text and what is visible behind it. -/
def gapAfter (s : List Char) : List Char :=
  if s.getLast?.any isBlank && !(oneLine s).isEmpty then [' '] else []

theorem gapAfter_eq_nil_or (s : List Char) : gapAfter s = [] ∨ gapAfter s = [' '] := by
  unfold gapAfter
  split
  · exact .inr rfl
  · exact .inl rfl

theorem joinWith_concat (sep : List Char) (pieces : List (List Char)) (last : List Char) :
    joinWith sep (pieces ++ [last]) =
      (if pieces = [] then [] else joinWith sep pieces ++ sep) ++ last := by
  induction pieces with
  | nil => rfl
  | cons first rest ih =>
    cases rest with
    | nil => simp [joinWith]
    | cons second more =>
      simp only [List.cons_append, joinWith] at ih ⊢
      simp [ih]

theorem fields_of_visible (h : ∀ d ∈ s, isBlank d = false) :
    fields s = if s = [] then [] else [s] := by
  rw [fields, splitWhere_eq_singleton h]
  by_cases filled : s = [] <;> simp [filled]

theorem fields_append_blank {d : Char} (blank : isBlank d = true) (s t : List Char) :
    fields (s ++ d :: t) = fields s ++ fields t := by
  rw [fields, splitWhere_append blank, List.filter_append]
  rfl

theorem oneLine_eq_nil_iff : oneLine s = [] ↔ fields s = [] := by
  constructor
  · intro none
    rw [List.eq_nil_iff_forall_not_mem]
    intro piece hp
    obtain ⟨c, hc⟩ := List.exists_mem_of_ne_nil piece (by simpa using (List.mem_filter.mp hp).2)
    have there : c ∈ oneLine s := mem_joinWith_of_mem hp hc
    rw [none] at there
    cases there
  · intro none
    rw [oneLine, none]
    rfl

/-- A text is visible, or it has a last blank. -/
theorem visible_or_exists_blank (s : List Char) : (∀ d ∈ s, isBlank d = false) ∨
    ∃ front blank last, s = front ++ blank :: last ∧ isBlank blank = true ∧
      ∀ d ∈ last, isBlank d = false := by
  induction s with
  | nil => exact .inl fun _ none => nomatch none
  | cons c rest ih =>
    rcases ih with visible | ⟨front, blank, last, rfl, is_blank, visible⟩
    · cases here : isBlank c with
      | true => exact .inr ⟨[], c, rest, rfl, here, visible⟩
      | false => exact .inl (List.forall_mem_cons.mpr ⟨here, visible⟩)
    · exact .inr ⟨c :: front, blank, last, rfl, is_blank, visible⟩

theorem gapAfter_of_visible (h : ∀ d ∈ s.getLast?, isBlank d = false) : gapAfter s = [] := by
  refine if_neg fun gap => ?_
  obtain ⟨d, last, blank⟩ := (Option.any_eq_true ..).mp (Bool.and_eq_true_iff.mp gap).1
  rw [h d last] at blank
  cases blank

theorem gapAfter_eq (blank : s.getLast?.any isBlank = true) :
    gapAfter s = if fields s = [] then [] else [' '] := by
  by_cases nothing : fields s = []
  · simp [gapAfter, oneLine_eq_nil_iff.mpr nothing, nothing]
  · have something := mt oneLine_eq_nil_iff.mp nothing
    simp [gapAfter, blank, something, nothing]

/-- The last field of a text, behind the others. -/
theorem oneLine_append_field {d : Char} (blank : isBlank d = true)
    (h : ∀ e ∈ t, isBlank e = false) (filled : t ≠ []) (s : List Char) :
    oneLine (s ++ d :: t) = (if fields s = [] then [] else oneLine s ++ [' ']) ++ t := by
  rw [oneLine, fields_append_blank blank, fields_of_visible h, if_neg filled, joinWith_concat]

theorem oneLine_of_visible (h : ∀ d ∈ s, isBlank d = false) : oneLine s = s := by
  rw [oneLine, fields_of_visible h]
  split
  · rename_i none
    rw [none]
    rfl
  · rfl

/-- **Visible characters stay at the end**, behind a gap. -/
theorem oneLine_append (h : ∀ d ∈ t, isBlank d = false) (filled : t ≠ []) (s : List Char) :
    oneLine (s ++ t) = oneLine s ++ gapAfter s ++ t := by
  rcases visible_or_exists_blank s with visible | ⟨front, blank, last, rfl, is_blank, visible⟩
  · have no_gap : gapAfter s = [] :=
      gapAfter_of_visible fun d hd => visible d (List.mem_of_getLast? hd)
    rw [no_gap, oneLine_of_visible visible, List.append_nil,
      oneLine_of_visible (List.forall_mem_append.mpr ⟨visible, h⟩)]
  · have longer : oneLine (front ++ blank :: last ++ t) =
        (if fields front = [] then [] else oneLine front ++ [' ']) ++ (last ++ t) := by
      rw [List.append_assoc, List.cons_append]
      exact oneLine_append_field is_blank (List.forall_mem_append.mpr ⟨visible, h⟩)
        (List.append_ne_nil_of_right_ne_nil last filled) front
    by_cases none : last = []
    · subst none
      have shorter : oneLine (front ++ [blank]) = oneLine front :=
        oneLine_append_blanks (by simpa using is_blank) front
      have same : fields (front ++ [blank]) = fields front := by
        rw [fields_append_blank is_blank]
        exact List.append_nil _
      rw [longer, shorter, gapAfter_eq (by simpa using is_blank), same]
      split
      · rename_i nothing
        rw [oneLine_eq_nil_iff.mpr nothing]
        rfl
      · rfl
    · have no_gap : gapAfter (front ++ blank :: last) = [] := by
        refine gapAfter_of_visible fun d hd => visible d (List.mem_of_getLast? ?_)
        rwa [← List.singleton_append, ← List.append_assoc,
          List.getLast?_append_of_ne_nil _ none] at hd
      rw [longer, no_gap, oneLine_append_field is_blank visible none, List.append_nil,
        List.append_assoc]

/-! ## 2. Slashes -/

/-- What inlining leaves of a text before it opens ends of comments. -/
def shown (s : List Char) : List Char := (oneLine s).filter fun c => !endsLiteral c

theorem filter_gapAfter (s : List Char) :
    (gapAfter s).filter (fun c => !endsLiteral c) = gapAfter s := by
  rcases gapAfter_eq_nil_or s with gap | gap <;> rw [gap] <;> rfl

theorem inline_eq (s : List Char) : inline s = openEnds (shown s) := rfl

theorem getLast?_openEnds (s : List Char) : (openEnds s).getLast? = s.getLast? := by
  induction s using openEnds_induct with
  | nil => rfl
  | ends rest ih => simp [List.getLast?_cons, ih]
  | other c rest _ ih => rw [List.getLast?_cons, List.getLast?_cons, ih]

/-- A row of slashes. -/
abbrev slashes (k : Nat) : List Char := List.replicate k '/'

theorem slashes_succ (k : Nat) : slashes (k + 1) = '/' :: slashes k := rfl

/-- The space that opens an end of a comment where a slash comes behind a text. -/
def starGap (s : List Char) : List Char := if s.getLast? = some '*' then [' '] else []

theorem openEnds_slashes (k : Nat) : openEnds (slashes k) = slashes k := by
  induction k with
  | zero => rfl
  | succ k ih =>
    have other : ¬['*', '/'] <+: '/' :: slashes k := by simp [List.cons_prefix_cons]
    rw [slashes_succ, openEnds_cons other, ih]

theorem openEnds_append_slashes (s : List Char) (k : Nat) :
    openEnds (s ++ slashes (k + 1)) = openEnds s ++ starGap s ++ slashes (k + 1) := by
  induction s using openEnds_induct with
  | nil => exact openEnds_slashes (k + 1)
  | ends rest ih =>
    have same : starGap ('*' :: '/' :: rest) = starGap rest := by
      cases rest <;> simp [starGap]
    rw [List.cons_append, List.cons_append, openEnds_end, ih, same]
    rfl
  | other c rest h ih =>
    by_cases star : c = '*' ∧ rest = []
    · obtain ⟨rfl, rfl⟩ := star
      rw [slashes_succ, List.cons_append, List.nil_append, openEnds_end, openEnds_slashes]
      rfl
    · have same : starGap (c :: rest) = starGap rest := by
        cases rest with
        | nil => simpa [starGap] using star
        | cons d more => simp [starGap]
      have later : ¬['*', '/'] <+: c :: (rest ++ slashes (k + 1)) := by
        cases rest with
        | nil =>
          intro front
          exact star ⟨(List.cons_prefix_cons.mp front).1.symm, rfl⟩
        | cons d more => simpa [List.cons_prefix_cons] using h
      rw [List.cons_append, openEnds_cons later, ih, same]
      rfl

/-- The space that inlining leaves between a text and a slash behind it. -/
def slashGap (s : List Char) : List Char :=
  if gapAfter s = [] then starGap (shown s) else [' ']

theorem slashGap_eq_nil_or (s : List Char) : slashGap s = [] ∨ slashGap s = [' '] := by
  unfold slashGap starGap
  split
  · split
    · exact .inr rfl
    · exact .inl rfl
  · exact .inr rfl

/-- **Slashes stay at the end**, behind a gap. -/
theorem inline_append_slashes (s : List Char) (k : Nat) :
    inline (s ++ slashes (k + 1)) = inline s ++ slashGap s ++ slashes (k + 1) := by
  have visible : ∀ d ∈ slashes (k + 1), isBlank d = false := fun d hd => by
    rw [List.eq_of_mem_replicate hd]
    rfl
  have kept : (slashes (k + 1)).filter (fun c => !endsLiteral c) = slashes (k + 1) := by
    refine List.filter_eq_self.mpr fun d hd => ?_
    rw [List.eq_of_mem_replicate hd]
    rfl
  have line : shown (s ++ slashes (k + 1)) = shown s ++ gapAfter s ++ slashes (k + 1) := by
    rw [shown, oneLine_append visible (by simp), List.filter_append, List.filter_append,
      filter_gapAfter, kept]
    rfl
  rw [inline_eq, line, openEnds_append_slashes, slashGap, inline_eq]
  split
  · rename_i none
    rw [none, List.append_nil]
  · rename_i some_gap
    have gap : gapAfter s = [' '] := (gapAfter_eq_nil_or s).resolve_left some_gap
    have closed : starGap (shown s ++ [' ']) = [] := by simp [starGap]
    rw [gap, closed, openEnds_concat (by decide), List.append_nil]

/-! ## 3. Last characters -/

/-- The text ends in the visible `c`, behind it what inlining removes, and behind that blanks. -/
structure EndsIn (c : Char) (hidden blanks s : List Char) : Prop where
  text : ∃ front, s = front ++ c :: (hidden ++ blanks)
  visible : isBlank c = false
  hidden : ∀ d ∈ hidden, endsLiteral d = true
  blanks : ∀ d ∈ blanks, isBlank d = true

theorem isBlank_of_endsLiteral (h : endsLiteral c = true) : isBlank c = false := by
  rcases Bool.or_eq_true_iff.mp h with e | e <;> rw [eq_of_beq e] <;> rfl

theorem shown_append_blanks (h : ∀ d ∈ blanks, isBlank d = true) (s : List Char) :
    shown (s ++ blanks) = shown s := by
  rw [shown, oneLine_append_blanks h, shown]

theorem shown_append_hidden (h : ∀ d ∈ hidden, endsLiteral d = true) (filled : hidden ≠ [])
    (s : List Char) : shown (s ++ hidden) = shown s ++ gapAfter s := by
  have none : hidden.filter (fun c => !endsLiteral c) = [] :=
    List.filter_eq_nil_iff.mpr fun d hd => by simp [h d hd]
  rw [shown, oneLine_append (fun d hd => isBlank_of_endsLiteral (h d hd)) filled,
    List.filter_append, List.filter_append, none, List.append_nil, filter_gapAfter]
  rfl

theorem shown_concat (visible : isBlank c = false) (kept : endsLiteral c = false)
    (s : List Char) : shown (s ++ [c]) = shown s ++ gapAfter s ++ [c] := by
  rw [shown, oneLine_append (by simpa using visible) (List.cons_ne_nil _ _),
    List.filter_append, List.filter_append, filter_gapAfter]
  simp [shown, kept]

/-- Behind a visible character, nothing of this is shown. -/
theorem shown_append_unseen (visible : ∀ d ∈ s.getLast?, isBlank d = false)
    (removed : ∀ d ∈ hidden, endsLiteral d = true) (blank : ∀ d ∈ blanks, isBlank d = true) :
    shown (s ++ (hidden ++ blanks)) = shown s := by
  rw [← List.append_assoc, shown_append_blanks blank]
  by_cases none : hidden = []
  · rw [none, List.append_nil]
  · rw [shown_append_hidden removed none, gapAfter_of_visible visible, List.append_nil]

/-- Behind a blank, what is removed leaves a space at the end, or nothing at all. -/
theorem isBlank_of_gap (blank : s.getLast?.any isBlank = true) :
    ∀ c ∈ (shown s ++ gapAfter s).getLast?, isBlank c = true := by
  intro c hc
  rw [gapAfter_eq blank] at hc
  split at hc
  · rename_i nothing
    rw [shown, oneLine_eq_nil_iff.mpr nothing] at hc
    cases hc
  · rw [List.getLast?_concat] at hc
    obtain rfl := Option.some.inj hc
    rfl

/-- A text is empty or ends in a character, and behind it stand characters that are removed, and
behind these blanks. -/
theorem exists_cut (s : List Char) : ∃ front hidden blanks, s = front ++ (hidden ++ blanks) ∧
    (∀ d ∈ hidden, endsLiteral d = true) ∧ (∀ d ∈ blanks, isBlank d = true) ∧
    (∀ d ∈ front.getLast?, endsLiteral d = false ∧ (hidden = [] → isBlank d = false)) := by
  have outer : s.rdropWhile isBlank ++ s.rtakeWhile isBlank = s := List.rdropWhile_append_rtakeWhile
  have inner : (s.rdropWhile isBlank).rdropWhile endsLiteral ++
      (s.rdropWhile isBlank).rtakeWhile endsLiteral = s.rdropWhile isBlank :=
    List.rdropWhile_append_rtakeWhile
  refine ⟨(s.rdropWhile isBlank).rdropWhile endsLiteral,
    (s.rdropWhile isBlank).rtakeWhile endsLiteral, s.rtakeWhile isBlank, ?_,
    fun d => List.mem_rtakeWhile_imp, fun d => List.mem_rtakeWhile_imp,
    fun d hd => ⟨not_of_mem_getLast?_rdropWhile _ _ d hd, fun none => ?_⟩⟩
  · rw [← List.append_assoc, inner, outer]
  · rw [none, List.append_nil] at inner
    exact not_of_mem_getLast?_rdropWhile isBlank s d (inner ▸ hd)

/-- **An inlined text ends in** what its text ends in but for what inlining removes. -/
theorem getLast?_shown_iff (visible : isBlank c = false) (kept : endsLiteral c = false) :
    (shown s).getLast? = some c ↔ ∃ hidden blanks, EndsIn c hidden blanks s := by
  constructor
  · intro last
    obtain ⟨front, hidden, blanks, rfl, removed, blank, ends⟩ := exists_cut s
    rcases List.eq_nil_or_concat' front with rfl | ⟨earlier, d, rfl⟩
    · rw [shown_append_unseen (by simp) removed blank] at last
      cases last
    · obtain ⟨shows, solid⟩ := ends d List.getLast?_concat
      by_cases open_end : isBlank d = true
      · have something : hidden ≠ [] := fun none => by simp [solid none] at open_end
        rw [← List.append_assoc, shown_append_blanks blank,
          shown_append_hidden removed something] at last
        have closed := isBlank_of_gap (by simpa using open_end) c last
        rw [visible] at closed
        cases closed
      · have closed : isBlank d = false := by simpa using open_end
        rw [shown_append_unseen (by simpa using closed) removed blank,
          shown_concat closed shows, List.getLast?_concat] at last
        obtain rfl := Option.some.inj last
        exact ⟨hidden, blanks, ⟨earlier, by simp⟩, visible, removed, blank⟩
  · rintro ⟨hidden, blanks, ⟨front, rfl⟩, _, removed, blank⟩
    rw [List.append_cons, shown_append_unseen (by simpa using visible) removed blank,
      shown_concat visible kept, List.getLast?_concat]

theorem getLast?_inline_slash_iff :
    (inline s).getLast? = some '/' ↔ ∃ hidden blanks, EndsIn '/' hidden blanks s := by
  rw [inline_eq, getLast?_openEnds]
  exact getLast?_shown_iff rfl rfl

theorem EndsIn.oneLine_ne_nil (h : EndsIn c hidden blanks s) : oneLine s ≠ [] := by
  obtain ⟨⟨front, rfl⟩, visible, removed, blank⟩ := h
  have seen : ∀ d ∈ c :: hidden, isBlank d = false :=
    List.forall_mem_cons.mpr ⟨visible, fun d hd => isBlank_of_endsLiteral (removed d hd)⟩
  rw [← List.cons_append, ← List.append_assoc, oneLine_append_blanks blank,
    oneLine_append seen (List.cons_ne_nil _ _)]
  simp

theorem EndsIn.gapAfter_ne_nil (h : EndsIn c hidden blanks s) (filled : blanks ≠ []) :
    gapAfter s ≠ [] := by
  obtain ⟨earlier, d, rfl⟩ := (List.eq_nil_or_concat' blanks).resolve_left filled
  have blank : isBlank d = true := h.blanks d (by simp)
  obtain ⟨front, text⟩ := h.text
  have last : s.getLast? = some d := by
    rw [text, ← List.cons_append, ← List.append_assoc, ← List.append_assoc, List.getLast?_concat]
  simp [gapAfter, last, blank, h.oneLine_ne_nil]

theorem exists_endsIn_of_gap (gap : gapAfter s ≠ []) :
    ∃ c blanks, EndsIn c [] blanks s ∧ blanks ≠ [] := by
  have why : s.getLast?.any isBlank = true ∧ oneLine s ≠ [] := by simpa [gapAfter] using gap
  have whole : s.rdropWhile isBlank ++ s.rtakeWhile isBlank = s := List.rdropWhile_append_rtakeWhile
  rcases List.eq_nil_or_concat' (s.rdropWhile isBlank) with nothing | ⟨front, c, ends⟩
  · have blank := List.rdropWhile_eq_nil_iff.mp nothing
    exact absurd (oneLine_append_blanks blank []) why.2
  · have visible := not_of_mem_getLast?_rdropWhile isBlank s c (by rw [ends]; simp)
    refine ⟨c, s.rtakeWhile isBlank, ⟨⟨front, ?_⟩, visible, by simp,
      fun d => List.mem_rtakeWhile_imp⟩, fun nothing => ?_⟩
    · rw [List.nil_append, List.append_cons, ← ends, whole]
    · rw [nothing, List.append_nil, ends] at whole
      rw [← whole, List.getLast?_concat, Option.any_some, visible] at why
      cases why.1

/-- **A space comes before slashes** behind a text that ends in a blank, or in a star but for what
inlining removes. -/
theorem slashGap_ne_nil_iff :
    slashGap s ≠ [] ↔ ∃ c hidden blanks, EndsIn c hidden blanks s ∧ (blanks ≠ [] ∨ c = '*') := by
  constructor
  · intro gap
    by_cases none : gapAfter s = []
    · rw [slashGap, if_pos none, starGap] at gap
      split at gap
      · rename_i star
        obtain ⟨hidden, blanks, ends⟩ := (getLast?_shown_iff rfl rfl).mp star
        exact ⟨'*', hidden, blanks, ends, .inr rfl⟩
      · exact absurd rfl gap
    · obtain ⟨c, blanks, ends, filled⟩ := exists_endsIn_of_gap none
      exact ⟨c, [], blanks, ends, .inl filled⟩
  · rintro ⟨c, hidden, blanks, ends, why⟩
    by_cases none : gapAfter s = []
    · obtain rfl := why.resolve_left fun filled => ends.gapAfter_ne_nil filled none
      have star := (getLast?_shown_iff ends.visible rfl).mpr ⟨hidden, blanks, ends⟩
      rw [slashGap, if_pos none, starGap, if_pos star]
      exact List.cons_ne_nil _ _
    · rw [slashGap, if_neg none]
      exact List.cons_ne_nil _ _

end Covenant.Naming
