import DialogueScript.Proofs.Checks
import DialogueScript.Run
import DialogueScript.Text.Blank

/-! # The rules of runs

A run needs two texts that are not empty and room for the first of them. Four rules, one after the
other, say so, and the first one that is broken is the one that is reported. -/
namespace DialogueScript.Run

structure KeepsRules (draft : Draft) (verbatim plainText : String) : Prop where
  verbatim_eq : draft.verbatim = some verbatim
  plainText_eq : draft.plainText = some plainText
  verbatim_ne : verbatim.toList ≠ []
  plainText_ne : plainText.toList ≠ []
  fromOne : 1 ≤ draft.fromColumn
  room : draft.fromColumn + verbatim.length - 1 ≤ lastColumn

def drafted (draft : Draft) (verbatim plainText : String) : Run :=
  ⟨draft.bold, draft.italic, draft.code, verbatim, plainText,
    ⟨draft.fromColumn, draft.fromColumn + verbatim.length - 1⟩⟩

theorem requireText_eq_ok_iff {input : Input} {text? : Option String} {text : String} :
    requireText input text? = .ok text ↔ text? = some text ∧ text.toList ≠ [] := by
  cases text? with
  | none => simp [requireText]
  | some written =>
    have hempty : written.isEmpty = true ↔ written.toList = [] := by simp
    rw [requireText, Option.some.injEq]
    split_ifs with h
    · simp_all
    · rw [Except.ok.injEq]
      exact ⟨fun hsame => ⟨hsame, hsame ▸ mt hempty.mpr h⟩, fun hsame => hsame.1⟩

theorem ofDraft_eq_ok_iff {draft : Draft} {run : Run} : ofDraft draft = .ok run ↔
    ∃ verbatim plainText, KeepsRules draft verbatim plainText ∧
      run = drafted draft verbatim plainText := by
  simp only [ofDraft, bind_eq_ok_iff, requireText_eq_ok_iff]
  constructor
  · rintro ⟨verbatim, ⟨hverbatim, hvne⟩, plainText, ⟨hplain, hpne⟩, columns, hcolumns, hrun⟩
    obtain ⟨hone, hroom, rfl⟩ := (Columns.require_eq_ok_iff hvne).mp hcolumns
    exact ⟨verbatim, plainText, ⟨hverbatim, hplain, hvne, hpne, hone, hroom⟩,
      (Except.ok.inj hrun).symm⟩
  · rintro ⟨verbatim, plainText, h, rfl⟩
    exact ⟨verbatim, ⟨h.verbatim_eq, h.verbatim_ne⟩, plainText, ⟨h.plainText_eq, h.plainText_ne⟩,
      _, (Columns.require_eq_ok_iff h.verbatim_ne).mpr ⟨h.fromOne, h.room, rfl⟩, rfl⟩

/-! ### The first broken rule -/

inductive Lacks (input : Input) : Option String → Rejection → Prop
  | missing : Lacks input none (.missing input)
  | empty : Lacks input (some "") (.invalid input .empty)

/-- The rules in the order of their checks, each with the rejection that tells of breaking it. -/
inductive Breaks (draft : Draft) : Nat → Rejection → Prop
  | verbatim {rejection : Rejection} (lacks : Lacks .verbatim draft.verbatim rejection) :
      Breaks draft 1 rejection
  | plainText {rejection : Rejection} (lacks : Lacks .plainText draft.plainText rejection) :
      Breaks draft 2 rejection
  | columnBelowOne (below : draft.fromColumn < 1) :
      Breaks draft 3 (.invalid .fromColumn .columnBelowOne)
  | columnOutOfRange {verbatim : String} (given : draft.verbatim = some verbatim)
      (beyond : lastColumn < draft.fromColumn + verbatim.length - 1) :
      Breaks draft 4 (.invalid .fromColumn .columnOutOfRange)

def BreaksFirst (draft : Draft) (rejection : Rejection) : Prop :=
  ∃ rule, Breaks draft rule rejection ∧ ∀ earlier < rule, ∀ other, ¬Breaks draft earlier other

variable {input : Input} {text? : Option String} {draft : Draft} {rejection : Rejection}

theorem requireText_eq_error_iff :
    requireText input text? = .error rejection ↔ Lacks input text? rejection := by
  constructor
  · intro h
    cases text? with
    | none =>
      cases h
      exact .missing
    | some text =>
      rw [requireText] at h
      split_ifs at h with hempty
      cases h
      rw [String.isEmpty_iff.mp hempty]
      exact .empty
  · rintro (_ | _) <;> rfl

theorem not_lacks_iff :
    (∀ rejection, ¬Lacks input text? rejection) ↔ ∃ text, text? = some text ∧ text.toList ≠ [] := by
  constructor
  · intro h
    cases hrequire : requireText input text? with
    | error rejection => exact absurd (requireText_eq_error_iff.mp hrequire) (h rejection)
    | ok text => exact ⟨text, requireText_eq_ok_iff.mp hrequire⟩
  · rintro ⟨text, htext⟩ rejection hlacks
    have hok : requireText input text? = .ok text := requireText_eq_ok_iff.mpr htext
    rw [requireText_eq_error_iff.mpr hlacks] at hok
    cases hok

/-- Where both texts are given, the rules about texts are kept. -/
theorem not_breaks_of_texts {verbatim plainText : String}
    (hverbatim : draft.verbatim = some verbatim ∧ verbatim.toList ≠ [])
    (hplain : draft.plainText = some plainText ∧ plainText.toList ≠ []) :
    ∀ rule < 3, ∀ other, ¬Breaks draft rule other := by
  intro rule hrule other h
  cases h with
  | verbatim lacks => exact not_lacks_iff.mpr ⟨verbatim, hverbatim⟩ other lacks
  | plainText lacks => exact not_lacks_iff.mpr ⟨plainText, hplain⟩ other lacks
  | columnBelowOne _ => omega
  | columnOutOfRange _ _ => omega

theorem ofDraft_eq_error_iff : ofDraft draft = .error rejection ↔ BreaksFirst draft rejection := by
  simp only [ofDraft, bind_eq_error_iff, requireText_eq_error_iff, requireText_eq_ok_iff]
  constructor
  · rintro (hlacks | ⟨verbatim, hverbatim, hlacks | ⟨plainText, hplain, hcolumns⟩⟩)
    · exact ⟨1, .verbatim hlacks, fun rule hrule _ h => by cases h <;> omega⟩
    · refine ⟨2, .plainText hlacks, fun rule hrule other h => ?_⟩
      cases h with
      | verbatim lacks => exact not_lacks_iff.mpr ⟨verbatim, hverbatim⟩ other lacks
      | plainText _ => omega
      | columnBelowOne _ => omega
      | columnOutOfRange _ _ => omega
    · have hcolumns := hcolumns.resolve_right (by rintro ⟨_, -, h⟩; cases h)
      have htexts := not_breaks_of_texts hverbatim hplain
      rcases (Columns.require_eq_error_iff hverbatim.2).mp hcolumns with
        ⟨hbelow, rfl⟩ | ⟨hone, hbeyond, rfl⟩
      · exact ⟨3, .columnBelowOne hbelow, htexts⟩
      · refine ⟨4, .columnOutOfRange hverbatim.1 hbeyond, fun rule hrule other h => ?_⟩
        rcases Nat.lt_succ_iff_lt_or_eq.mp hrule with hearlier | rfl
        · exact htexts rule hearlier other h
        · cases h with
          | columnBelowOne below => omega
  · rintro ⟨rule, hbreaks, hkept⟩
    have hfirst : 1 < rule → ∃ text, draft.verbatim = some text ∧ text.toList ≠ [] := fun hrule =>
      not_lacks_iff.mp fun other lacks => hkept 1 hrule other (.verbatim lacks)
    have hsecond : 2 < rule → ∃ text, draft.plainText = some text ∧ text.toList ≠ [] := fun hrule =>
      not_lacks_iff.mp fun other lacks => hkept 2 hrule other (.plainText lacks)
    cases hbreaks with
    | verbatim lacks => exact Or.inl lacks
    | plainText lacks =>
      obtain ⟨verbatim, hverbatim⟩ := hfirst (by omega)
      exact Or.inr ⟨verbatim, hverbatim, Or.inl lacks⟩
    | columnBelowOne below =>
      obtain ⟨verbatim, hverbatim⟩ := hfirst (by omega)
      obtain ⟨plainText, hplain⟩ := hsecond (by omega)
      exact Or.inr ⟨verbatim, hverbatim, Or.inr ⟨plainText, hplain, Or.inl
        ((Columns.require_eq_error_iff hverbatim.2).mpr (Or.inl ⟨below, rfl⟩))⟩⟩
    | @columnOutOfRange verbatim given beyond =>
      have hverbatim : draft.verbatim = some verbatim ∧ verbatim.toList ≠ [] := by
        obtain ⟨found, hfound, hne⟩ := hfirst (by omega)
        rw [Option.some.inj (given.symm.trans hfound)]
        exact ⟨hfound, hne⟩
      obtain ⟨plainText, hplain⟩ := hsecond (by omega)
      have hone : 1 ≤ draft.fromColumn :=
        not_lt.mp fun hbelow => hkept 3 (by omega) _ (.columnBelowOne hbelow)
      exact Or.inr ⟨verbatim, hverbatim, Or.inr ⟨plainText, hplain, Or.inl
        ((Columns.require_eq_error_iff hverbatim.2).mpr (Or.inr ⟨hone, beyond, rfl⟩))⟩⟩

/-! ### What the verdict depends on -/

theorem verdict_requireText_congr (input : Input) {other? : Option String}
    (h : other?.map String.isEmpty = text?.map String.isEmpty) :
    verdict (requireText input other?) = verdict (requireText input text?) := by
  cases text? with
  | none =>
    rw [Option.map_none, Option.map_eq_none_iff] at h
    rw [h]
  | some text =>
    obtain ⟨written, rfl, hempty⟩ := Option.map_eq_some_iff.mp h
    rw [requireText, requireText, hempty]
    split_ifs <;> rfl

/-- The styles have no part in the verdict. Of the plain text only whether it is there, and not
empty, has one. -/
theorem verdict_ofDraft_congr {other : Draft} (hverbatim : other.verbatim = draft.verbatim)
    (hcolumn : other.fromColumn = draft.fromColumn)
    (hplain : other.plainText.map String.isEmpty = draft.plainText.map String.isEmpty) :
    verdict (ofDraft other) = verdict (ofDraft draft) := by
  rw [ofDraft, ofDraft, hverbatim, hcolumn]
  cases requireText .verbatim draft.verbatim with
  | error rejection => rfl
  | ok verbatim =>
    rw [ok_bind, ok_bind]
    refine verdict_bind_congr (verdict_requireText_congr .plainText hplain) fun _ _ => ?_
    exact verdict_bind_congr rfl fun _ _ => rfl

/-! ### Runs -/

/-- Four rules are all that a run has to keep, and a draft is rejected for the first that it breaks.
What styles it has and what its plain text says does not matter, and texts may be blank. -/
theorem ofDraft_exact (draft : Draft) :
    (∀ run, ofDraft draft = .ok run ↔
      ∃ verbatim plainText, KeepsRules draft verbatim plainText ∧
        run = ⟨draft.bold, draft.italic, draft.code, verbatim, plainText,
          ⟨draft.fromColumn, draft.fromColumn + verbatim.length - 1⟩⟩) ∧
    (∀ rejection, ofDraft draft = .error rejection ↔ BreaksFirst draft rejection) ∧
    (∀ other : Draft, other.verbatim = draft.verbatim → other.fromColumn = draft.fromColumn →
      other.plainText.map String.isEmpty = draft.plainText.map String.isEmpty →
      verdict (ofDraft other) = verdict (ofDraft draft)) ∧
    ∀ verbatim plainText : String, verbatim.toList ≠ [] → plainText.toList ≠ [] →
      (∀ c ∈ verbatim.toList ++ plainText.toList, Text.isBlank c = true) →
      1 ≤ draft.fromColumn → draft.fromColumn + verbatim.length - 1 ≤ lastColumn →
      ∃ run, ofDraft { draft with verbatim := some verbatim, plainText := some plainText } =
        .ok run := by
  refine ⟨fun run => ofDraft_eq_ok_iff, fun rejection => ofDraft_eq_error_iff, ?_, ?_⟩
  · intro other hverbatim hcolumn hplain
    exact verdict_ofDraft_congr hverbatim hcolumn hplain
  · intro verbatim plainText hverbatim hplain _ hone hroom
    exact ⟨_, ofDraft_eq_ok_iff.mpr
      ⟨verbatim, plainText, ⟨rfl, rfl, hverbatim, hplain, hone, hroom⟩, rfl⟩⟩

/-- A line has room for one blank in its last column, and not for two. The second draft differs
from the first in its styles and its plain text. -/
theorem ofDraft_exact_blank :
    ofDraft ⟨true, false, true, some "\t ", some "x", lastColumn⟩ =
      .error (.invalid .fromColumn .columnOutOfRange) ∧
    BreaksFirst ⟨true, false, true, some "\t ", some "x", lastColumn⟩
      (.invalid .fromColumn .columnOutOfRange) ∧
    verdict (ofDraft ⟨false, true, true, some "\t ", some "\u2028\n", lastColumn⟩) =
      verdict (ofDraft ⟨true, false, true, some "\t ", some "x", lastColumn⟩) ∧
    ∃ run, ofDraft ⟨true, false, true, some " ", some "\n\n", lastColumn⟩ = .ok run := by
  obtain ⟨-, herror, hverdict, hblank⟩ :=
    ofDraft_exact ⟨true, false, true, some "\t ", some "x", lastColumn⟩
  have hrejected : ofDraft ⟨true, false, true, some "\t ", some "x", lastColumn⟩ =
      .error (.invalid .fromColumn .columnOutOfRange) := by decide +kernel
  refine ⟨hrejected, (herror _).mp hrejected, hverdict _ rfl rfl (by decide), ?_⟩
  exact hblank " " "\n\n" (by decide) (by decide) (List.all_eq_true.mp (by decide)) (by decide)
    le_rfl

end DialogueScript.Run
