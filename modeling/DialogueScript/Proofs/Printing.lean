import DialogueScript.Proofs.CommandLine.Refinement

/-! # What is printed of a lexeme

Printing drops the blank characters that a rendering ends with: the line end of YAML is dropped and
put back, and no character of a text is lost. -/
namespace DialogueScript.CommandLine

/-- A request is answered if there are settings to print with and a lexeme to print. -/
theorem answer_eq_ok_iff {world : Settings.World} {request : Request} {text : String} :
    request.answer world = .ok text ↔ ∃ settings lexeme,
      request.settings world = .ok settings ∧ Lexeme.ofDraft request.draft = .ok lexeme ∧
        lexeme.render settings.pretty settings.format = text := by
  simp only [Request.answer, bind_eq_ok_iff, mapError_eq_ok_iff, pure, Except.pure,
    Except.ok.injEq, exists_and_left]

/-- What is logged has no part in how a run ends and what it prints. -/
theorem run_of_request (world : Settings.World) (log : Option String) {arguments : List String}
    {request : Request} (hrequest : Request.ofArguments arguments = .ok request) :
    (run world log arguments).exitCode = (request.outcome world none).exitCode ∧
      (run world log arguments).output = (request.outcome world none).output := by
  simp only [run, hrequest, Request.outcome]
  cases request.answer world <;> exact ⟨rfl, rfl⟩

/-- A run succeeds if its request is answered, and prints the answer. -/
theorem prints_iff {world : Settings.World} {log : Option String} {arguments : List String}
    {request : Request} (hrequest : Request.ofArguments arguments = .ok request) {output : String} :
    (run world log arguments).exitCode = 0 ∧ (run world log arguments).output = output ↔
      ∃ text, request.answer world = .ok text ∧ printed text = output := by
  obtain ⟨hcode, houtput⟩ := run_of_request world log hrequest
  rw [hcode, houtput]
  cases hanswer : request.answer world with
  | ok text => simp [outcome_of_ok hanswer]
  | error failure => simp [outcome_of_error hanswer]

/-- A rendering is printed as it is, with one line end: whatever its texts end with, no character of
them is dropped. -/
theorem prints_rendering :
    (∀ draft lexeme, Lexeme.ofDraft draft = .ok lexeme → ∀ isPretty format, ∃ shown,
      format.Shows shown (lexeme.render isPretty format) ∧
        printed (lexeme.render isPretty format) = shown ++ "\n") ∧
    ∀ world log arguments request, Request.ofArguments arguments = .ok request → ∀ output,
      (run world log arguments).exitCode = 0 ∧ (run world log arguments).output = output ↔
        ∃ settings lexeme shown, request.settings world = .ok settings ∧
          Lexeme.ofDraft request.draft = .ok lexeme ∧
          settings.format.Shows shown (lexeme.render settings.pretty settings.format) ∧
          output = shown ++ "\n" := by
  constructor
  · intro draft lexeme h isPretty format
    obtain ⟨shown, hshows⟩ := Lexeme.exists_shows h isPretty format
    exact ⟨shown, hshows, printed_of_shows hshows⟩
  · intro world log arguments request hrequest output
    simp only [prints_iff hrequest, answer_eq_ok_iff]
    constructor
    · rintro ⟨_, ⟨settings, lexeme, hsettings, hlexeme, rfl⟩, rfl⟩
      obtain ⟨shown, hshows⟩ := Lexeme.exists_shows hlexeme settings.pretty settings.format
      exact ⟨settings, lexeme, shown, hsettings, hlexeme, hshows, printed_of_shows hshows⟩
    · rintro ⟨settings, lexeme, shown, hsettings, hlexeme, hshows, rfl⟩
      exact ⟨_, ⟨settings, lexeme, hsettings, hlexeme, rfl⟩, printed_of_shows hshows⟩

/-- Texts that are blank from end to end. -/
theorem prints_rendering_blank :
    (∃ shown, Format.yaml.Shows shown
        ((Lexeme.run ⟨false, true, false, " \n", "\u2003", ⟨3, 4⟩⟩).render true .yaml) ∧
      printed ((Lexeme.run ⟨false, true, false, " \n", "\u2003", ⟨3, 4⟩⟩).render true .yaml) =
        shown ++ "\n") ∧
    (run .empty none ["run", " \n", "\u2003", "-n3", "--italic"]).exitCode = 0 ∧
    (run .empty none ["run", " \n", "\u2003", "-n3", "--italic"]).output =
      "run 3..4 [italic] \" \\n\" -> \"\\u\x7b2003\x7d\"" ++ "\n" := by
  have hlexeme : Lexeme.ofDraft (.run ⟨false, true, false, some " \n", some "\u2003", 3⟩) =
      .ok (.run ⟨false, true, false, " \n", "\u2003", ⟨3, 4⟩⟩) := by
    decide +kernel
  have hrequest : Request.ofArguments ["run", " \n", "\u2003", "-n3", "--italic"] =
      .ok ⟨.run ⟨false, true, false, some " \n", some "\u2003", 3⟩, none, none⟩ := by
    decide +kernel
  have hsettings : Request.settings .empty
      ⟨.run ⟨false, true, false, some " \n", some "\u2003", 3⟩, none, none⟩ = .ok ⟨.text, true⟩ :=
    @settings_withoutFiles .empty _ none rfl rfl
  refine ⟨prints_rendering.1 _ _ hlexeme true .yaml, ?_⟩
  refine (prints_rendering.2 _ none _ _ hrequest _).mpr ⟨_, _, _, hsettings, hlexeme, ⟨?_, ?_⟩, rfl⟩
  · exact ⟨"run 3..4 [italic] \" \\n\" -> \"\\u\x7b2003\x7d".toList, '"', by decide, by decide⟩
  · decide +kernel

end DialogueScript.CommandLine
