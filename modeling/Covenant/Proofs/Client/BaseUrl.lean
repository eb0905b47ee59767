import Covenant.Client.Context
import Covenant.Proofs.Naming.Ends
/-!
# Base URLs

A base URL comes from the contract, or it is set. Its slashes at the end are trimmed before the URL
is inlined where it comes from the contract, and after that where it is set.

* `HidesSlash`: in front of the slashes at the end stands another, hidden behind blanks or behind
  characters that inlining removes.
* `Unsettled`: the URL hides a slash, or inlining leaves a space before the slashes at its end.
* `baseUrls_agree_iff`: both ways lead to one base URL if the URL is not unsettled, and only then.
  The one that is set never ends in a slash; the one of the contract does if the URL hides one.
-/

namespace Covenant.Client

open Covenant.Contract Covenant.Naming Covenant.Text

variable {s : List Char} {url : String}

/-! ## 1. Slashes at the end -/

theorem trimEndOf_eq (c : Char) (s : List Char) : trimEndOf c s = s.rdropWhile (· == c) := rfl

/-- What is trimmed is a row of slashes. -/
theorem exists_append_slashes (s : List Char) : ∃ k, s = trimEndOf '/' s ++ slashes k := by
  have row : s.rtakeWhile (· == '/') = slashes (s.rtakeWhile (· == '/')).length :=
    List.eq_replicate_of_mem fun c hc =>
      eq_of_beq (List.mem_rtakeWhile_imp (p := (· == '/')) hc)
  exact ⟨_, by rw [trimEndOf_eq, ← row, List.rdropWhile_append_rtakeWhile]⟩

theorem trimEndOf_append_slashes (s : List Char) (k : Nat) :
    trimEndOf '/' (s ++ slashes k) = trimEndOf '/' s := by
  induction k with
  | zero => rw [slashes, List.replicate_zero, List.append_nil]
  | succ k ih =>
    rw [slashes, List.replicate_succ', ← List.append_assoc, trimEndOf_eq,
      List.rdropWhile_concat_pos _ _ _ rfl, ← trimEndOf_eq, ih]

theorem getLast?_trimEndOf (s : List Char) : (trimEndOf '/' s).getLast? ≠ some '/' := by
  intro slash
  have other := not_of_mem_getLast?_rdropWhile (· == '/') s '/' slash
  cases other

theorem trimEndOf_eq_self_iff : trimEndOf '/' s = s ↔ s.getLast? ≠ some '/' := by
  constructor
  · intro same
    rw [← same]
    exact getLast?_trimEndOf s
  · intro other
    rw [trimEndOf_eq, List.rdropWhile_eq_self_iff]
    intro filled slash
    exact other (by rw [List.getLast?_eq_some_getLast filled, eq_of_beq slash])

/-! ## 2. Hidden slashes -/

/-- Behind what is trimmed stands a slash, but for blanks and for what inlining removes. -/
def HidesSlash (s : List Char) : Prop :=
  ∃ hidden blanks, EndsIn '/' hidden blanks (trimEndOf '/' s)

/-- A slash is hidden, or slashes are trimmed behind a blank or behind a star. -/
def Unsettled (s : List Char) : Prop :=
  ∃ c hidden blanks, EndsIn c hidden blanks (trimEndOf '/' s) ∧
    (c = '/' ∨ trimEndOf '/' s ≠ s ∧ (blanks ≠ [] ∨ c = '*'))

theorem unsettled_iff (s : List Char) :
    Unsettled s ↔ HidesSlash s ∨ trimEndOf '/' s ≠ s ∧ slashGap (trimEndOf '/' s) ≠ [] := by
  rw [slashGap_ne_nil_iff]
  constructor
  · rintro ⟨c, hidden, blanks, ends, rfl | ⟨trimmed, gap⟩⟩
    · exact .inl ⟨hidden, blanks, ends⟩
    · exact .inr ⟨trimmed, c, hidden, blanks, ends, gap⟩
  · rintro (⟨hidden, blanks, ends⟩ | ⟨trimmed, c, hidden, blanks, ends, gap⟩)
    · exact ⟨'/', hidden, blanks, ends, .inl rfl⟩
    · exact ⟨c, hidden, blanks, ends, .inr ⟨trimmed, gap⟩⟩

theorem inline_trimEndOf_iff (s : List Char) :
    (Naming.inline (trimEndOf '/' s)).getLast? = some '/' ↔ HidesSlash s :=
  getLast?_inline_slash_iff

/-- **Trimming and inlining commute** on a text that is not unsettled, and on no other. -/
theorem inline_trimEndOf_eq_iff (s : List Char) :
    Naming.inline (trimEndOf '/' s) = trimEndOf '/' (Naming.inline s) ↔ ¬Unsettled s := by
  rw [unsettled_iff, ← inline_trimEndOf_iff, not_or]
  obtain ⟨k, whole⟩ := exists_append_slashes s
  generalize trimEndOf '/' s = front at whole
  subst whole
  cases k with
  | zero =>
    rw [slashes, List.replicate_zero, List.append_nil, eq_comm, trimEndOf_eq_self_iff]
    simp
  | succ k =>
    have trimmed : front ≠ front ++ slashes (k + 1) := by simp
    rw [inline_append_slashes, trimEndOf_append_slashes]
    by_cases gap : slashGap front = []
    · rw [gap, List.append_nil, eq_comm, trimEndOf_eq_self_iff]
      simp
    · have space : slashGap front = [' '] := (slashGap_eq_nil_or front).resolve_left gap
      rw [space, trimEndOf_eq, List.rdropWhile_concat_neg _ _ _ (by decide)]
      simp [trimmed]

/-! ## 3. Base URLs -/

theorem ofDocument_baseUrl {document : Document} (first : document.primaryUrl? = some url) :
    (EmitContext.ofDocument document).baseUrl =
      .ofList (Naming.inline (trimEndOf '/' url.toList)) := by
  simp [EmitContext.ofDocument, first, EmitContext.trimSlashes, inlineText]

theorem withBaseUrl_baseUrl (shown : inlineText url ≠ "") (context : EmitContext) :
    (context.withBaseUrl url).baseUrl = .ofList (trimEndOf '/' (Naming.inline url.toList)) := by
  rw [EmitContext.withBaseUrl, if_neg (by rwa [String.isEmpty_iff]), EmitContext.trimSlashes,
    inlineText, String.toList_ofList]

/-- **The base URL of a contract is the one that is set** with the URL of its first server, if that
URL is not unsettled, and only then. -/
theorem baseUrls_agree_iff {document : Document} (first : document.primaryUrl? = some url)
    (shown : inlineText url ≠ "") (context : EmitContext) :
    ((EmitContext.ofDocument document).baseUrl = (context.withBaseUrl url).baseUrl ↔
      ¬Unsettled url.toList) ∧
    ((EmitContext.ofDocument document).baseUrl.toList.getLast? = some '/' ↔
      HidesSlash url.toList) ∧
    (context.withBaseUrl url).baseUrl.toList.getLast? ≠ some '/' := by
  rw [ofDocument_baseUrl first, withBaseUrl_baseUrl shown, String.ofList_inj, String.toList_ofList,
    String.toList_ofList]
  exact ⟨inline_trimEndOf_eq_iff _, inline_trimEndOf_iff _, getLast?_trimEndOf _⟩

/-- A document with one server and no paths. -/
def servedAt (url : String) : Document where
  openapi := none
  info := ⟨"Pets", "1", none⟩
  servers := [⟨url, none⟩]
  paths := []
  schemas := .empty

/-- A slash at the end is trimmed both times. -/
theorem slashed_url_agrees :
    (servedAt "https://pets.io/v1/").primaryUrl? = some "https://pets.io/v1/" ∧
      inlineText "https://pets.io/v1/" ≠ "" ∧ ¬Unsettled "https://pets.io/v1/".toList := by
  have shown : inlineText "https://pets.io/v1/" ≠ "" := by decide +kernel
  have first : (servedAt "https://pets.io/v1/").primaryUrl? = some "https://pets.io/v1/" := rfl
  have both := baseUrls_agree_iff first shown (.ofDocument (servedAt "https://pets.io/v1/"))
  exact ⟨first, shown, both.1.mp (by decide +kernel)⟩

/-- A slash before a blank is trimmed only where the URL is set. -/
theorem spaced_url_disagrees :
    (servedAt "http://pets.io/v1/ ").primaryUrl? = some "http://pets.io/v1/ " ∧
      inlineText "http://pets.io/v1/ " ≠ "" ∧
      (EmitContext.ofDocument (servedAt "http://pets.io/v1/ ")).baseUrl = "http://pets.io/v1/" ∧
      ((EmitContext.ofDocument (servedAt "http://pets.io/v1/ ")).withBaseUrl
        "http://pets.io/v1/ ").baseUrl = "http://pets.io/v1" := by
  decide +kernel

end Covenant.Client
