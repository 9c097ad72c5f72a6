import Disclosure.Case.Embargo
import Disclosure.Case.Message
import Disclosure.Case.Report
import Disclosure.Case.State
import Disclosure.Proofs.Text.Letters
import Mathlib.Data.List.Nodup
import Mathlib.Data.List.Sublists

/-!
# The codes of states and messages

States and types of message are written as short codes.  A reader is exact if it
reads each text as the one value that the text is written for, and refuses any other
text by an error that repeats it.  The letters of a case state are read as they
stand; all other codes are read in either case of their letters.
-/

namespace Disclosure

open Text

/-- Each text is read as the one value that it is written for, if there is one, and
refused as it stands otherwise. -/
structure ReadsExactly {α : Type} (Written : α → String → Prop)
    (unknown : String → ValueError)
    (parse : String → Except ValueError α) : Prop where
  reads : ∀ text value, parse text = .ok value ↔ Written value text
  unique : ∀ text value other, Written value text → Written other text → value = other
  refuses : ∀ text error,
    parse text = .error error ↔
      (∀ value, ¬ Written value text) ∧ error = unknown text

namespace ReadsExactly

variable {α : Type} {Written : α → String → Prop} {unknown : String → ValueError}
  {parse : String → Except ValueError α} {all : List α} {code : α → String}

/-- It suffices to know what is read and how the rest is refused. -/
theorem of_reads (reads : ∀ text value, parse text = .ok value ↔ Written value text)
    (refuses : ∀ text error, parse text = .error error → error = unknown text) :
    ReadsExactly Written unknown parse where
  reads := reads
  unique text value other written writtenToo := by
    have same := (reads text value).mpr written
    rw [(reads text other).mpr writtenToo] at same
    exact (Except.ok.inj same).symm
  refuses text error := by
    cases parsed : parse text with
    | ok value =>
      refine ⟨nofun, fun ⟨unwritten, _⟩ => ?_⟩
      exact absurd ((reads text value).mp parsed) (unwritten value)
    | error cause =>
      have same := refuses text cause parsed
      constructor
      · intro failed
        cases failed
        refine ⟨fun value written => ?_, same⟩
        cases parsed.symm.trans ((reads text value).mpr written)
      · rintro ⟨_, rfl⟩
        rw [same]

/-- Looking for the first value whose code has the same letters reads exactly, if no
two values have a code of the same letters. -/
theorem of_codes (complete : ∀ value, value ∈ all)
    (distinct : (all.map fun value => (code value).toList.map Char.toLower).Nodup)
    (looksUp : ∀ text, parse text =
      (all.find? fun value => sameFolded (code value) text).elim
        (.error (unknown text)) .ok) :
    ReadsExactly (fun value => SameLetters (code value)) unknown parse := by
  apply of_reads
  · intro text value
    rw [looksUp, ← sameFolded_iff]
    cases here : all.find? fun value => sameFolded (code value) text with
    | some found =>
      have same := List.find?_some here
      constructor
      · intro read
        cases read
        exact same
      · intro sameToo
        rw [sameFolded, beq_iff_eq] at same sameToo
        have equal := List.inj_on_of_nodup_map distinct (complete found)
          (complete value) (same.trans sameToo.symm)
        exact congrArg Except.ok equal
    | none =>
      have other := List.find?_eq_none.mp here value (complete value)
      constructor
      · intro read
        cases read
      · intro same
        exact absurd same other
  · intro text error failed
    rw [looksUp] at failed
    cases here : all.find? fun value => sameFolded (code value) text with
    | some found =>
      rw [here] at failed
      cases failed
    | none =>
      rw [here] at failed
      exact (Except.error.inj failed).symm

end ReadsExactly

/-! ## Codes in either case -/

theorem ReportState.readsExactly :
    ReadsExactly (fun state => SameLetters (ReportState.code state)) .unknownState
      ReportState.parse :=
  .of_codes ReportState.mem_all (by decide +kernel) fun text => by
    rw [ReportState.parse]
    cases ReportState.all.find? _ <;> rfl

theorem EmbargoState.readsExactly :
    ReadsExactly (fun state => SameLetters (EmbargoState.code state)) .unknownState
      EmbargoState.parse :=
  .of_codes EmbargoState.mem_all (by decide +kernel) fun text => by
    rw [EmbargoState.parse]
    cases EmbargoState.all.find? _ <;> rfl

theorem MessageType.readsExactly :
    ReadsExactly (fun type => SameLetters (MessageType.code type)) .unknownMessageType
      MessageType.parse :=
  .of_codes MessageType.mem_all (by decide +kernel) fun text => by
    rw [MessageType.parse]
    cases MessageType.all.find? _ <;> rfl

/-! ## Case states -/

theorem CaseFlag.capital_ne_letter (flag : CaseFlag) : flag.capital ≠ flag.letter := by
  cases flag <;> decide

theorem CaseFlag.nodup_all : CaseFlag.all.Nodup := by decide

namespace CaseState

theorem ext_has {state other : CaseState}
    (same : ∀ flag, state.has flag = other.has flag) : state = other := by
  rcases state with ⟨_, _, _, _, _, _⟩
  rcases other with ⟨_, _, _, _, _, _⟩
  rw [mk.injEq]
  exact ⟨same .vendorAware, same .fixReady, same .fixDeployed, same .publicAware,
    same .exploitPublic, same .attacksObserved⟩

theorem letterOf_eq_letter_iff {state : CaseState} {flag : CaseFlag} :
    state.letterOf flag = flag.letter ↔ state.has flag = false := by
  rw [letterOf]
  split
  next set => simp [set, flag.capital_ne_letter]
  next unset => simp [unset]

theorem letterOf_eq_capital_iff {state : CaseState} {flag : CaseFlag} :
    state.letterOf flag = flag.capital ↔ state.has flag = true := by
  rw [letterOf]
  split
  next set => simp [set]
  next unset => simp [unset, flag.capital_ne_letter.symm]

theorem has_insert_of_ne {state : CaseState} {flag other : CaseFlag}
    (different : other ≠ flag) : (state.insert flag).has other = state.has other := by
  simp [different.symm]

/-- What is left of the states when one flag more may change. -/
theorem kept_cons_iff {start next final : CaseState} {flag : CaseFlag}
    {flags : List CaseFlag} (fresh : flag ∉ flags)
    (others : ∀ other, other ≠ flag → next.has other = start.has other) :
    (∀ other, other ∉ flags → final.has other = next.has other) ↔
      final.has flag = next.has flag ∧
        ∀ other, other ∉ flag :: flags → final.has other = start.has other := by
  constructor
  · intro kept
    refine ⟨kept flag fresh, fun other outside => ?_⟩
    rw [List.mem_cons, not_or] at outside
    rcases outside with ⟨different, beyond⟩
    rw [kept other beyond, others other different]
  · rintro ⟨here, kept⟩ other beyond
    by_cases same : other = flag
    · rw [same, here]
    · have outside : other ∉ flag :: flags := by simp [same, beyond]
      rw [kept other outside, others other same]

/-- Letters are read if and only if they are those of the state that comes of it,
flag by flag; all other flags stay as they were. -/
theorem readLetters_eq_some_iff {start final : CaseState} {flags : List CaseFlag}
    {chars : List Char} (distinct : flags.Nodup)
    (unset : ∀ flag ∈ flags, start.has flag = false) :
    readLetters start flags chars = some final ↔
      chars = flags.map final.letterOf ∧
        ∀ flag, flag ∉ flags → final.has flag = start.has flag := by
  -- the start moves on with each flag that is set, so its later flags are unset still
  induction flags generalizing start chars with
  | nil =>
    cases chars with
    | nil =>
      rw [readLetters, Option.some.injEq]
      constructor
      · rintro rfl
        exact ⟨rfl, fun _ _ => rfl⟩
      · rintro ⟨_, same⟩
        exact (ext_has fun flag => same flag List.not_mem_nil).symm
    | cons char chars => simp [readLetters]
  | cons flag flags ih =>
    rcases List.nodup_cons.mp distinct with ⟨fresh, distinctRest⟩
    rcases List.forall_mem_cons.mp unset with ⟨unsetHere, unsetRest⟩
    cases chars with
    | nil => simp [readLetters]
    | cons char chars =>
      rw [readLetters, List.map_cons, List.cons.injEq]
      by_cases small : char = flag.letter
      · rw [if_pos small, ih distinctRest unsetRest, small, eq_comm (a := flag.letter),
          letterOf_eq_letter_iff, kept_cons_iff fresh fun _ _ => rfl, unsetHere,
          and_left_comm, and_assoc]
      · rw [if_neg small]
        by_cases large : char = flag.capital
        · have unsetToo : ∀ other ∈ flags, (start.insert flag).has other = false := by
            intro other among
            rw [has_insert_of_ne (ne_of_mem_of_not_mem among fresh)]
            exact unsetRest other among
          have set : (start.insert flag).has flag = true := by simp
          rw [if_pos large, ih distinctRest unsetToo, large,
            eq_comm (a := flag.capital), letterOf_eq_capital_iff,
            kept_cons_iff fresh fun _ => has_insert_of_ne, set, and_left_comm,
            and_assoc]
        · rw [if_neg large]
          refine ⟨nofun, fun ⟨⟨here, _⟩, _⟩ => ?_⟩
          rw [letterOf] at here
          split at here
          · exact absurd here large
          · exact absurd here small

theorem readLetters_all_eq_some_iff {state : CaseState} {chars : List Char} :
    readLetters initial CaseFlag.all chars = some state ↔
      chars = CaseFlag.all.map state.letterOf := by
  rw [readLetters_eq_some_iff CaseFlag.nodup_all fun flag _ => by cases flag <;> rfl]
  exact and_iff_left fun flag outside => absurd flag.mem_all outside

theorem readsExactly :
    ReadsExactly (fun state text => text = code state) .unknownState parse := by
  apply ReadsExactly.of_reads
  · intro text state
    rw [parse, code, ← String.toList_inj, String.toList_ofList,
      ← readLetters_all_eq_some_iff]
    cases readLetters initial CaseFlag.all text.toList <;> simp
  · intro text error failed
    rw [parse] at failed
    split at failed
    · cases failed
    · exact (Except.error.inj failed).symm

theorem ofJson?_eq_some_iff {value : Json} {state : CaseState} :
    ofJson? value = some state ↔ value = state.toJson := by
  have ofText (text : String) :
      ofJson? (.text text) = some state ↔ text = state.code := by
    rw [← readsExactly.reads]
    change (parse text).toOption = some state ↔ _
    cases parse text <;> simp [Except.toOption]
  cases value with
  | text text => rw [ofText, toJson, Json.text.injEq]
  | _ => exact ⟨nofun, nofun⟩

theorem code_injective : Function.Injective code := by
  intro state other same
  exact readsExactly.unique _ state other rfl same

/-- Every state once. -/
def all : List CaseState := CaseFlag.all.sublists.map ofFlags

theorem ofFlags_flags (state : CaseState) : ofFlags state.flags = state := by
  rcases state with ⟨v, f, d, p, x, a⟩
  cases v <;> cases f <;> cases d <;> cases p <;> cases x <;> cases a <;> rfl

theorem mem_all (state : CaseState) : state ∈ all :=
  List.mem_map.mpr
    ⟨state.flags, List.mem_sublists.mpr List.filter_sublist, state.ofFlags_flags⟩

theorem nodup_all : all.Nodup := by decide +kernel

end CaseState

/--
The codes are exact.  A text is read as a case state if and only if it is the code of
that state as it stands, and as a report state, an embargo state or a type of message
if and only if it has the letters of its code, large or small; there is one such value
at most.  Any other text is refused by the error that repeats it.  In JSON, too,
exactly the 64 written forms are read as case states, each as the state that is
written so.
-/
theorem codes_are_exact :
    ReadsExactly (fun state text => text = CaseState.code state) .unknownState
      CaseState.parse ∧
    ReadsExactly (fun state => SameLetters (ReportState.code state)) .unknownState
      ReportState.parse ∧
    ReadsExactly (fun state => SameLetters (EmbargoState.code state)) .unknownState
      EmbargoState.parse ∧
    ReadsExactly (fun type => SameLetters (MessageType.code type)) .unknownMessageType
      MessageType.parse ∧
    (∀ value state, CaseState.ofJson? value = some state ↔ value = state.toJson) ∧
    ∃ forms : List String, forms.length = 64 ∧ forms.Nodup ∧
      ∀ value, (∃ state, CaseState.ofJson? value = some state) ↔
        ∃ form ∈ forms, value = .text form := by
  refine ⟨CaseState.readsExactly, ReportState.readsExactly,
    EmbargoState.readsExactly, MessageType.readsExactly,
    fun _ _ => CaseState.ofJson?_eq_some_iff, CaseState.all.map CaseState.code, ?_,
    CaseState.nodup_all.map CaseState.code_injective, fun value => ?_⟩
  · rw [List.length_map]
    decide
  · simp only [CaseState.ofJson?_eq_some_iff, List.mem_map, exists_exists_and_eq_and]
    constructor
    · rintro ⟨state, rfl⟩
      exact ⟨state, state.mem_all, rfl⟩
    · rintro ⟨state, _, rfl⟩
      exact ⟨state, rfl⟩

end Disclosure
