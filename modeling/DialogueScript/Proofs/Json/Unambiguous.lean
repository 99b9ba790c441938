import DialogueScript.Proofs.Json.Documents

/-! # A document holds one object

What a text starts with is skipped in one way only, so the members of an object and the texts of
their values are those of its document. -/
namespace DialogueScript.Json

variable {text rest other left : List Char}

theorem IsJson.exists_start (h : IsJson .value text) :
    ∃ c after, text = c :: after ∧ isSpacing c = false := by
  cases h with
  | word hword =>
    simp only [List.mem_cons, List.not_mem_nil, or_false] at hword
    rcases hword with rfl | rfl | rfl <;> exact ⟨_, _, rfl, rfl⟩
  | number hnumber =>
    obtain ⟨c, digits, rfl, hc⟩ := hnumber.exists_digit
    exact ⟨c, digits, rfl, isSpacing_of_isDigit hc⟩
  | negative _ => exact ⟨_, _, rfl, rfl⟩
  | string _ => exact ⟨_, _, rfl, rfl⟩
  | array _ => exact ⟨_, _, rfl, rfl⟩
  | object _ => exact ⟨_, _, rfl, rfl⟩

/-- Behind a gap a text begins in one place. -/
theorem eq_of_gap {gap space : List Char} (hgap : IsGap gap) (hspace : IsGap space) {c d : Char}
    (hc : isSpacing c = false) (hd : isSpacing d = false)
    (h : gap ++ c :: rest = space ++ d :: left) : c :: rest = d :: left := by
  have hdrop := congrArg dropSpacing h
  rwa [dropSpacing_append hgap hc, dropSpacing_append hspace hd] at hdrop

theorem IsJson.unique (h : IsJson .value text) (hother : IsJson .value other)
    (hrest : EndsNumber rest) (hleft : EndsNumber left) (hsame : text ++ rest = other ++ left) :
    text = other ∧ rest = left := by
  have hskip := h.isSkipped [] rest isGap_nil hrest
  have hskipOther := hother.isSkipped [] left isGap_nil hleft
  rw [List.nil_append] at hskip hskipOther
  rw [hsame, hskipOther, Except.ok.injEq] at hskip
  subst hskip
  exact ⟨List.append_cancel_right hsame, rfl⟩

theorem IsJson.element_unique {value found : List Char} (h : IsJson (.element value) text)
    (hother : IsJson (.element found) other) {c d : Char} (hc : c ∈ [',', ']', '}'])
    (hd : d ∈ [',', ']', '}']) (hsame : text ++ c :: rest = other ++ d :: left) :
    value = found ∧ c :: rest = d :: left := by
  cases h with
  | @element before _ after hbefore hvalue hafter =>
  cases hother with
  | @element space _ gap hspace hfound hgap =>
  simp only [List.append_assoc] at hsame
  obtain ⟨a, first, hstart, ha⟩ := hvalue.exists_start
  obtain ⟨b, second, hbegin, hb⟩ := hfound.exists_start
  have hvalues : value ++ (after ++ c :: rest) = found ++ (gap ++ d :: left) := by
    rw [hstart, hbegin] at hsame ⊢
    exact eq_of_gap hbefore hspace ha hb hsame
  obtain ⟨hequal, hafters⟩ := hvalue.unique hfound (endsNumber_gap hafter hc rest)
    (endsNumber_gap hgap hd left) hvalues
  exact ⟨hequal, eq_of_gap hafter hgap (isSpacing_closer hc) (isSpacing_closer hd) hafters⟩

theorem IsBody.unique {body name : List Char} (h : IsBody body) (hname : IsBody name)
    (hsame : body ++ '"' :: rest = name ++ '"' :: left) : body = name ∧ rest = left := by
  have hskip : skipString (body ++ '"' :: rest) = .ok rest :=
    skipString_eq_ok_iff.mpr ⟨body, h, rfl⟩
  have hskipName : skipString (name ++ '"' :: left) = .ok left :=
    skipString_eq_ok_iff.mpr ⟨name, hname, rfl⟩
  rw [hsame, hskipName, Except.ok.injEq] at hskip
  subst hskip
  exact ⟨List.append_cancel_right hsame, rfl⟩

variable {member found : List Char × List Char}

theorem IsJson.member_unique (h : IsJson (.member member) text)
    (hother : IsJson (.member found) other) {c d : Char} (hc : c ∈ [',', ']', '}'])
    (hd : d ∈ [',', ']', '}']) (hsame : text ++ c :: rest = other ++ d :: left) :
    member = found ∧ c :: rest = d :: left := by
  cases h with
  | member hbefore hname hbetween helement =>
  cases hother with
  | member hspace hbody hgap hfound =>
  simp only [List.append_assoc, List.cons_append] at hsame
  have hquoted := eq_of_gap hbefore hspace rfl rfl hsame
  rw [List.cons.injEq] at hquoted
  obtain ⟨rfl, hnamed⟩ := hname.unique hbody hquoted.2
  have hvalued := eq_of_gap hbetween hgap rfl rfl hnamed
  rw [List.cons.injEq] at hvalued
  obtain ⟨rfl, hrest⟩ := helement.element_unique hfound hc hd hvalued.2
  exact ⟨rfl, hrest⟩

theorem IsJson.exists_quote (h : IsJson (.member member) text) :
    ∃ before after, IsGap before ∧ text = before ++ '"' :: after := by
  cases h with
  | member hbefore hname hbetween helement => exact ⟨_, _, hbefore, rfl⟩

/-- Some members are one, and what closes the object or goes on with it. -/
theorem IsJson.exists_first {members : List (List Char × List Char)}
    (h : IsJson (.members (member :: members)) text) (rest : List Char) :
    ∃ first c more, IsJson (.member member) first ∧ c ∈ [',', ']', '}'] ∧
      text ++ '}' :: rest = first ++ c :: more ∧
      (c = '}' ∧ members = [] ∨
        c = ',' ∧ ∃ others, IsJson (.members members) others ∧ more = others ++ '}' :: rest) := by
  cases h with
  | lastMember hmember => exact ⟨text, '}', rest, hmember, by simp, rfl, Or.inl ⟨rfl, rfl⟩⟩
  | @nextMember _ _ first others _ hmember hothers =>
    exact ⟨first, ',', others ++ '}' :: rest, hmember, by simp, by simp,
      Or.inr ⟨rfl, others, hothers, rfl⟩⟩

theorem IsJson.not_noMembers {members : List (List Char × List Char)} (h : IsJson (.members []) text)
    (hother : IsJson (.members (member :: members)) other) :
    text ++ '}' :: rest ≠ other ++ '}' :: left := by
  intro hsame
  obtain ⟨first, c, more, hmember, -, hshape, -⟩ := hother.exists_first left
  obtain ⟨before, after, hbefore, rfl⟩ := hmember.exists_quote
  rw [hshape, List.append_assoc, List.cons_append] at hsame
  cases h with
  | noMembers hgap =>
    have hstart := eq_of_gap hgap hbefore rfl rfl hsame
    simp at hstart

theorem IsJson.members_unique {members others : List (List Char × List Char)}
    (h : IsJson (.members members) text) (hother : IsJson (.members others) other)
    (hsame : text ++ '}' :: rest = other ++ '}' :: left) : members = others := by
  induction members generalizing others text other with
  | nil =>
    cases others with
    | nil => rfl
    | cons found others => exact absurd hsame (h.not_noMembers hother)
  | cons member members ih =>
    cases others with
    | nil => exact absurd hsame.symm (hother.not_noMembers h)
    | cons found others =>
      obtain ⟨first, c, more, hfirst, hc, hshape, hmore⟩ := h.exists_first rest
      obtain ⟨second, d, after, hsecond, hd, hform, hafter⟩ := hother.exists_first left
      rw [hshape, hform] at hsame
      obtain ⟨rfl, hnext⟩ := hfirst.member_unique hsecond hc hd hsame
      rw [List.cons.injEq] at hnext
      obtain ⟨rfl, rfl⟩ := hnext
      rcases hmore with ⟨rfl, rfl⟩ | ⟨rfl, next, hnext, rfl⟩ <;>
        rcases hafter with ⟨hbrace, rfl⟩ | ⟨hcomma, last, hlast, heq⟩
      · rfl
      · cases hcomma
      · cases hbrace
      · rw [ih hnext hlast heq]

/-! ### Documents -/

theorem Spells.unique {body spelled found : List Char} (h : Spells body spelled)
    (hfound : Spells body found) : spelled = found := by
  have hread : readString (body ++ ['"']) = .ok (spelled, []) :=
    readString_eq_ok_iff.mpr ⟨body, h, rfl⟩
  have hreadFound : readString (body ++ ['"']) = .ok (found, []) :=
    readString_eq_ok_iff.mpr ⟨body, hfound, rfl⟩
  rw [hread, Except.ok.injEq, Prod.mk.injEq] at hreadFound
  exact hreadFound.1

theorem AreNamed.unique {written : List (List Char × List Char)}
    {members others : List (String × List Char)} (h : AreNamed written members)
    (hother : AreNamed written others) : members = others := by
  induction h generalizing others with
  | nil =>
    cases hother
    rfl
  | @cons raw member _ _ hname _ ih =>
    cases hother with
    | @cons _ found _ _ hfound hothers =>
      have hnames : member.1 = found.1 := by
        rw [← String.toList_inj]
        exact hname.1.unique hfound.1
      have hvalues : member.2 = found.2 := hname.2.symm.trans hfound.2
      rw [ih hothers, Prod.ext hnames hvalues]

variable {document : String} {members others : List (String × List Char)}

/-- The members of the object that a document holds. -/
theorem IsDocument.members_unique (h : IsDocument (IsObject members) document)
    (hother : IsDocument (IsObject others) document) : members = others := by
  obtain ⟨before, _, after, hbefore, ⟨written, body, hjson, hnamed, rfl⟩, -, hdocument⟩ := h
  obtain ⟨space, _, gap, hspace, ⟨found, inner, hinner, hfound, rfl⟩, -, hsame⟩ := hother
  rw [hdocument] at hsame
  simp only [List.cons_append, List.append_assoc] at hsame
  have hstart := eq_of_gap hbefore hspace rfl rfl hsame
  rw [List.cons.injEq] at hstart
  have hwritten := hjson.members_unique hinner hstart.2
  subst hwritten
  exact hnamed.unique hfound

theorem IsDocument.not_array (h : IsDocument (IsObject members) document)
    {values : List (List Char)} : ¬ IsDocument (IsArray values) document := by
  rintro ⟨space, _, gap, hspace, ⟨inner, hinner, rfl⟩, -, hsame⟩
  obtain ⟨before, _, after, hbefore, ⟨written, body, hjson, hnamed, rfl⟩, -, hdocument⟩ := h
  rw [hdocument] at hsame
  simp only [List.cons_append] at hsame
  have hstart := eq_of_gap hbefore hspace rfl rfl hsame
  simp at hstart

end DialogueScript.Json
