import DialogueScript.Proofs.Json.Objects
import DialogueScript.Proofs.Json.Reading

/-! # Values that are passed over

Skipping a value succeeds exactly if the text starts with one, to any depth. -/
namespace DialogueScript.Json

variable {text rest : List Char}

/-! ### Space -/

theorem dropSpacing_eq_cons_iff {c : Char} : dropSpacing text = c :: rest ↔
    ∃ gap, IsGap gap ∧ isSpacing c = false ∧ text = gap ++ c :: rest := by
  constructor
  · intro h
    refine ⟨text.takeWhile isSpacing, fun d hd => List.mem_takeWhile_imp hd, ?_, ?_⟩
    · have hhead := List.head?_dropWhile_not isSpacing text
      rw [dropSpacing] at h
      simpa [h] using hhead
    · rw [← h, dropSpacing, List.takeWhile_append_dropWhile]
  · rintro ⟨gap, hgap, hc, rfl⟩
    exact dropSpacing_append hgap hc rest

theorem dropSpacing_eq_nil_iff : dropSpacing text = [] ↔ IsGap text := List.dropWhile_eq_nil_iff

/-! ### What is left behind a value -/

def restOf {text : List Char} (skipped : Except DecodeError (Shorter text)) :
    Except DecodeError (List Char) :=
  skipped.map Subtype.val

theorem restOf_widen {text longer : List Char} (h : text.length ≤ longer.length)
    (skipped : Except DecodeError (Shorter text)) :
    restOf (skipped.map (Shorter.widen h)) = restOf skipped := by
  cases skipped <;> rfl

def close (bracket : Char) (others : List Char → Except DecodeError (List Char))
    (text : List Char) : Except DecodeError (List Char) :=
  match dropSpacing text with
  | [] => .error .truncated
  | c :: after =>
    if c = bracket then .ok after else if c = ',' then others after else .error .malformed

theorem restOf_skipValue (text : List Char) : restOf (skipValue text) =
    match dropSpacing text with
    | [] => .error .truncated
    | c :: rest =>
      if c = '[' then
        match dropSpacing rest with
        | [] => .error .truncated
        | d :: after => if d = ']' then .ok after else restOf (skipElements rest)
      else if c = '{' then
        match dropSpacing rest with
        | [] => .error .truncated
        | d :: after => if d = '}' then .ok after else restOf (skipMembers rest)
      else skipPlain c rest := by
  rw [skipValue]
  split
  · rename_i hnil
    rw [hnil]
    rfl
  · rename_i c rest hcons
    simp only [hcons]
    split_ifs
    · split
      · rename_i hnil
        rw [hnil]
        rfl
      · rename_i d after hafter
        simp only [hafter]
        split_ifs
        · rfl
        · exact restOf_widen _ _
    · split
      · rename_i hnil
        rw [hnil]
        rfl
      · rename_i d after hafter
        simp only [hafter]
        split_ifs
        · rfl
        · exact restOf_widen _ _
    · split
      · rename_i hskip
        exact hskip.symm
      · rename_i hskip
        exact hskip.symm

theorem restOf_skipElements (text : List Char) : restOf (skipElements text) =
    restOf (skipValue text) >>= close ']' fun after => restOf (skipElements after) := by
  rw [skipElements]
  cases skipValue text with
  | error cause => rfl
  | ok left =>
    obtain ⟨left, hleft⟩ := left
    have hnext : (restOf (Except.ok ⟨left, hleft⟩) >>= close ']' fun after =>
        restOf (skipElements after)) = close ']' (fun after => restOf (skipElements after)) left := rfl
    rw [hnext, close]
    simp only [bind, Except.bind]
    split
    · rename_i hnil
      rw [hnil]
      rfl
    · rename_i hcons
      simp only [hcons]
      split_ifs
      · rfl
      · exact restOf_widen _ _
      · rfl

def skipMember (text : List Char) : Except DecodeError (List Char) :=
  match dropSpacing text with
  | [] => .error .truncated
  | c :: rest =>
    if c = '"' then do restOf (skipValue (← expect ':' (dropSpacing (← skipString rest))))
    else .error .malformed

theorem restOf_skipMembers (text : List Char) : restOf (skipMembers text) =
    skipMember text >>= close '}' fun after => restOf (skipMembers after) := by
  rw [skipMembers, skipMember]
  split
  · rename_i hnil
    rw [hnil]
    rfl
  · rename_i hcons
    simp only [hcons]
    split_ifs
    · split
      · rename_i hname
        simp only [hname, bind, Except.bind]
        rfl
      · rename_i hname
        split
        · rename_i hcolon
          simp only [hname, hcolon, bind, Except.bind]
          rfl
        · rename_i value hcolon
          split
          · rename_i hvalue
            simp only [hname, hcolon, hvalue, bind, Except.bind]
            rfl
          · rename_i left hleft hvalue
            have hrest : restOf (skipValue value) = .ok left := by rw [hvalue]; rfl
            split
            · rename_i hend
              simp only [hname, hcolon, hrest, close, hend, bind, Except.bind]
              rfl
            · rename_i hend
              simp only [hname, hcolon, hrest, close, hend, bind, Except.bind]
              split_ifs
              · rfl
              · exact restOf_widen _ _
              · rfl
    · rfl

/-! ### Every value is passed over -/

theorem endsNumber_gap {gap : List Char} (hgap : IsGap gap) {c : Char} (hc : c ∈ [',', ']', '}'])
    (rest : List Char) : EndsNumber (gap ++ c :: rest) := by
  cases gap with
  | nil =>
    simp only [List.mem_cons, List.not_mem_nil, or_false] at hc
    rcases hc with rfl | rfl | rfl <;> exact ⟨rfl, by simp, rfl⟩
  | cons d gap => exact endsNumber_space (hgap d (by simp)) _

theorem isSpacing_closer {c : Char} (hc : c ∈ [',', ']', '}']) : isSpacing c = false := by
  simp only [List.mem_cons, List.not_mem_nil, or_false] at hc
  rcases hc with rfl | rfl | rfl <;> rfl

def Part.IsSkipped : Part → List Char → Prop
  | value, text => ∀ gap rest, IsGap gap → EndsNumber rest →
      restOf (skipValue (gap ++ (text ++ rest))) = .ok rest
  | element _, text => ∀ c ∈ [',', ']', '}'], ∀ rest,
      ∃ left, restOf (skipValue (text ++ c :: rest)) = .ok left ∧ dropSpacing left = c :: rest
  | elements [], text => IsGap text
  | elements (_ :: _), text => ∀ rest, restOf (skipElements (text ++ ']' :: rest)) = .ok rest
  | member _, text => ∀ c ∈ [',', ']', '}'], ∀ rest,
      ∃ left, skipMember (text ++ c :: rest) = .ok left ∧ dropSpacing left = c :: rest
  | members [], text => IsGap text
  | members (_ :: _), text => ∀ rest, restOf (skipMembers (text ++ '}' :: rest)) = .ok rest

theorem restOf_skipValue_plain {gap : List Char} (hgap : IsGap gap) {c : Char}
    (hspacing : isSpacing c = false) (hbracket : c ≠ '[') (hbrace : c ≠ '{') (text : List Char) :
    restOf (skipValue (gap ++ c :: text)) = skipPlain c text := by
  rw [restOf_skipValue, dropSpacing_append hgap hspacing]
  simp only [if_neg hbracket, if_neg hbrace]

theorem skipPlain_digit {c : Char} (hc : c.isDigit = true) (text : List Char) :
    skipPlain c text = skipNumber (c :: text) := by
  have hne : ∀ d : Char, d.isDigit = false → c ≠ d := fun d hd => ne_of_isDigit hc hd
  rw [skipPlain, if_neg (hne '"' rfl), if_neg (hne 'n' rfl), if_neg (hne 't' rfl),
    if_neg (hne 'f' rfl), if_neg (hne '-' rfl), if_pos hc]

theorem IsNumber.exists_digit {number : List Char} (h : IsNumber number) :
    ∃ c digits, number = c :: digits ∧ c.isDigit = true := by
  cases h with
  | parts hwhole hfraction hexponent =>
    rename_i whole fraction exponent
    obtain ⟨c, digits, rfl⟩ := List.exists_cons_of_ne_nil hwhole.1.1
    exact ⟨c, digits ++ (fraction ++ exponent), rfl, hwhole.1.2 c (by simp)⟩

/-- No value starts with a closing bracket. -/
theorem exists_start_of_skipValue (h : restOf (skipValue text) = .ok rest) :
    ∃ c after, dropSpacing text = c :: after ∧ c ≠ ']' := by
  rw [restOf_skipValue] at h
  split at h
  · cases h
  · rename_i c after htext
    refine ⟨c, after, htext, ?_⟩
    rintro rfl
    cases h

theorem exists_start_of_skipMember (h : skipMember text = .ok rest) :
    ∃ after, dropSpacing text = '"' :: after := by
  rw [skipMember] at h
  split at h
  · cases h
  · rename_i c after htext
    split_ifs at h with hquote
    exact ⟨after, by rw [htext, hquote]⟩

theorem isSkipped_array {values : List (List Char)} (h : (Part.elements values).IsSkipped text) :
    Part.value.IsSkipped ('[' :: (text ++ [']'])) := by
  intro gap rest hgap hrest
  rw [List.cons_append, List.append_assoc, List.singleton_append, restOf_skipValue,
    dropSpacing_append hgap rfl]
  cases values with
  | nil =>
    have hclose : dropSpacing (text ++ ']' :: rest) = ']' :: rest := dropSpacing_append h rfl rest
    simp only [if_true, hclose]
  | cons value values =>
    have helements := h rest
    rw [restOf_skipElements] at helements
    obtain ⟨left, hvalue, -⟩ := bind_eq_ok_iff.mp helements
    obtain ⟨c, after, hstart, hc⟩ := exists_start_of_skipValue hvalue
    simp only [if_true, hstart, if_neg hc]
    exact h rest

theorem isSkipped_object {members : List (List Char × List Char)}
    (h : (Part.members members).IsSkipped text) :
    Part.value.IsSkipped ('{' :: (text ++ ['}'])) := by
  intro gap rest hgap hrest
  rw [List.cons_append, List.append_assoc, List.singleton_append, restOf_skipValue,
    dropSpacing_append hgap rfl]
  cases members with
  | nil =>
    have hclose : dropSpacing (text ++ '}' :: rest) = '}' :: rest := dropSpacing_append h rfl rest
    simp only [if_neg (show '{' ≠ '[' by decide), if_true, hclose]
  | cons member members =>
    have hmembers := h rest
    rw [restOf_skipMembers] at hmembers
    obtain ⟨left, hmember, -⟩ := bind_eq_ok_iff.mp hmembers
    obtain ⟨after, hstart⟩ := exists_start_of_skipMember hmember
    simp only [if_neg (show '{' ≠ '[' by decide), if_true, hstart,
      if_neg (show '"' ≠ '}' by decide)]
    exact h rest

theorem isSkipped_element {before value after : List Char} (hbefore : IsGap before)
    (hvalue : Part.value.IsSkipped value) (hafter : IsGap after) :
    (Part.element value).IsSkipped (before ++ (value ++ after)) := by
  intro c hc rest
  refine ⟨after ++ c :: rest, ?_, dropSpacing_append hafter (isSpacing_closer hc) rest⟩
  rw [List.append_assoc, List.append_assoc]
  exact hvalue before _ hbefore (endsNumber_gap hafter hc rest)

theorem isSkipped_member {before name between value : List Char} (hbefore : IsGap before)
    (hname : IsBody name) (hbetween : IsGap between) (h : (Part.element value).IsSkipped text) :
    (Part.member (name, value)).IsSkipped
      (before ++ '"' :: (name ++ '"' :: (between ++ ':' :: text))) := by
  intro c hc rest
  obtain ⟨left, hvalue, hleft⟩ := h c hc rest
  refine ⟨left, ?_, hleft⟩
  have hskip : skipString (name ++ '"' :: (between ++ ':' :: (text ++ c :: rest))) =
      .ok (between ++ ':' :: (text ++ c :: rest)) :=
    skipString_eq_ok_iff.mpr ⟨name, hname, rfl⟩
  have hshape : before ++ '"' :: (name ++ '"' :: (between ++ ':' :: text)) ++ c :: rest =
      before ++ '"' :: (name ++ '"' :: (between ++ ':' :: (text ++ c :: rest))) := by simp
  have hcolon : expect ':' (dropSpacing (between ++ ':' :: (text ++ c :: rest))) =
      .ok (text ++ c :: rest) := by
    rw [dropSpacing_append hbetween rfl]
    rfl
  rw [hshape, skipMember, dropSpacing_append hbefore rfl]
  simp only [if_true, hskip, hcolon, bind, Except.bind]
  exact hvalue

/-- A value in a document is passed over, whatever it holds. -/
theorem IsJson.isSkipped {part : Part} (h : IsJson part text) : part.IsSkipped text := by
  induction h with
  | word hword =>
    intro gap rest hgap hrest
    simp only [List.mem_cons, List.not_mem_nil, or_false] at hword
    rcases hword with rfl | rfl | rfl
    · exact (restOf_skipValue_plain hgap rfl (by decide) (by decide) _).trans
        (expectWord_append ['u', 'l', 'l'] rest)
    · exact (restOf_skipValue_plain hgap rfl (by decide) (by decide) _).trans
        (expectWord_append ['r', 'u', 'e'] rest)
    · exact (restOf_skipValue_plain hgap rfl (by decide) (by decide) _).trans
        (expectWord_append ['a', 'l', 's', 'e'] rest)
  | number hnumber =>
    intro gap rest hgap hrest
    have hskip := skipNumber_append hnumber hrest
    obtain ⟨c, digits, rfl, hc⟩ := hnumber.exists_digit
    rw [List.cons_append, restOf_skipValue_plain hgap (isSpacing_of_isDigit hc)
      (ne_of_isDigit hc rfl) (ne_of_isDigit hc rfl), skipPlain_digit hc]
    exact hskip
  | negative hnumber =>
    intro gap rest hgap hrest
    rw [List.cons_append, restOf_skipValue_plain hgap rfl (by decide) (by decide)]
    exact skipNumber_append hnumber hrest
  | @string body hbody =>
    intro gap rest hgap hrest
    rw [List.cons_append, List.append_assoc, List.singleton_append,
      restOf_skipValue_plain hgap rfl (by decide) (by decide)]
    exact skipString_eq_ok_iff.mpr ⟨body, hbody, rfl⟩
  | array _ ih => exact isSkipped_array ih
  | object _ ih => exact isSkipped_object ih
  | element hbefore _ hafter ih => exact isSkipped_element hbefore ih hafter
  | noElements hgap => exact hgap
  | lastElement _ ih =>
    intro rest
    obtain ⟨left, hvalue, hleft⟩ := ih ']' (by simp) rest
    rw [restOf_skipElements, hvalue]
    simp only [bind, Except.bind, close, hleft, if_true]
  | @nextElement value next text others values _ _ ih ihOthers =>
    intro rest
    obtain ⟨left, hvalue, hleft⟩ := ih ',' (by simp) (others ++ ']' :: rest)
    rw [List.append_assoc, List.cons_append, restOf_skipElements, hvalue]
    simp only [bind, Except.bind, close, hleft, if_neg (show ',' ≠ ']' by decide), if_true]
    exact ihOthers rest
  | member hbefore hname hbetween _ ih => exact isSkipped_member hbefore hname hbetween ih
  | noMembers hgap => exact hgap
  | lastMember _ ih =>
    intro rest
    obtain ⟨left, hmember, hleft⟩ := ih '}' (by simp) rest
    rw [restOf_skipMembers, hmember]
    simp only [bind, Except.bind, close, hleft, if_true]
  | @nextMember member next text others members _ _ ih ihOthers =>
    intro rest
    obtain ⟨left, hmember, hleft⟩ := ih ',' (by simp) (others ++ '}' :: rest)
    rw [List.append_assoc, List.cons_append, restOf_skipMembers, hmember]
    simp only [bind, Except.bind, close, hleft, if_neg (show ',' ≠ '}' by decide), if_true]
    exact ihOthers rest

/-! ### Only values are passed over -/

def StartsWithValue (text rest : List Char) : Prop :=
  ∃ gap value, IsGap gap ∧ IsJson .value value ∧ text = gap ++ (value ++ rest)

def StartsWithElements (text rest : List Char) : Prop :=
  ∃ value values body, IsJson (.elements (value :: values)) body ∧ text = body ++ ']' :: rest

def StartsWithMembers (text rest : List Char) : Prop :=
  ∃ member members body, IsJson (.members (member :: members)) body ∧ text = body ++ '}' :: rest

theorem isJson_of_skipPlain {c : Char} (h : skipPlain c text = .ok rest) :
    ∃ value, IsJson .value value ∧ c :: text = value ++ rest := by
  rw [skipPlain] at h
  split_ifs at h with hquote hn ht hf hminus hdigit
  · obtain ⟨body, hbody, rfl⟩ := skipString_eq_ok_iff.mp h
    exact ⟨_, .string hbody, by simp [hquote]⟩
  · rw [expectWord_eq_ok_iff.mp h, hn]
    exact ⟨['n', 'u', 'l', 'l'], .word (by simp), rfl⟩
  · rw [expectWord_eq_ok_iff.mp h, ht]
    exact ⟨['t', 'r', 'u', 'e'], .word (by simp), rfl⟩
  · rw [expectWord_eq_ok_iff.mp h, hf]
    exact ⟨['f', 'a', 'l', 's', 'e'], .word (by simp), rfl⟩
  · obtain ⟨number, hnumber, rfl⟩ := isNumber_of_skipNumber h
    exact ⟨_, .negative hnumber, by rw [hminus]; rfl⟩
  · obtain ⟨number, hnumber, htext⟩ := isNumber_of_skipNumber h
    exact ⟨_, .number hnumber, htext⟩

theorem startsWithValue_of_skipValue
    (helements : ∀ shorter rest, shorter.length < text.length →
      restOf (skipElements shorter) = .ok rest → StartsWithElements shorter rest)
    (hmembers : ∀ shorter rest, shorter.length < text.length →
      restOf (skipMembers shorter) = .ok rest → StartsWithMembers shorter rest)
    (h : restOf (skipValue text) = .ok rest) : StartsWithValue text rest := by
  rw [restOf_skipValue] at h
  split at h
  · cases h
  · rename_i c inner hstart
    have hlength := length_lt_of_dropSpacing hstart
    obtain ⟨gap, hgap, hc, htext⟩ := dropSpacing_eq_cons_iff.mp hstart
    split_ifs at h with hbracket hbrace
    · split at h
      · cases h
      · rename_i d after hinner
        split_ifs at h with hclose
        · cases h
          obtain ⟨between, hbetween, -, rfl⟩ := dropSpacing_eq_cons_iff.mp hinner
          exact ⟨gap, _, hgap, .array (.noElements hbetween), by simp [htext, hbracket, hclose]⟩
        · obtain ⟨value, values, body, hbody, rfl⟩ := helements inner rest hlength h
          exact ⟨gap, _, hgap, .array hbody, by simp [htext, hbracket]⟩
    · split at h
      · cases h
      · rename_i d after hinner
        split_ifs at h with hclose
        · cases h
          obtain ⟨between, hbetween, -, rfl⟩ := dropSpacing_eq_cons_iff.mp hinner
          exact ⟨gap, _, hgap, .object (.noMembers hbetween), by simp [htext, hbrace, hclose]⟩
        · obtain ⟨member, members, body, hbody, rfl⟩ := hmembers inner rest hlength h
          exact ⟨gap, _, hgap, .object hbody, by simp [htext, hbrace]⟩
    · obtain ⟨value, hvalue, hshape⟩ := isJson_of_skipPlain h
      exact ⟨gap, value, hgap, hvalue, by rw [htext, hshape]⟩

theorem startsWithElements_of_skipElements
    (hvalue : ∀ rest, restOf (skipValue text) = .ok rest → StartsWithValue text rest)
    (helements : ∀ shorter rest, shorter.length < text.length →
      restOf (skipElements shorter) = .ok rest → StartsWithElements shorter rest)
    (h : restOf (skipElements text) = .ok rest) : StartsWithElements text rest := by
  rw [restOf_skipElements] at h
  obtain ⟨left, hleft, hclose⟩ := bind_eq_ok_iff.mp h
  obtain ⟨before, value, hbefore, hjson, rfl⟩ := hvalue left hleft
  rw [close] at hclose
  split at hclose
  · cases hclose
  · rename_i c after hafter
    obtain ⟨gap, hgap, -, rfl⟩ := dropSpacing_eq_cons_iff.mp hafter
    have helement : IsJson (.element value) (before ++ (value ++ gap)) := .element hbefore hjson hgap
    split_ifs at hclose with hbracket hcomma
    · cases hclose
      exact ⟨value, [], _, .lastElement helement, by simp [hbracket]⟩
    · have hlength : after.length < (before ++ (value ++ (gap ++ c :: after))).length := by
        simp only [List.length_append, List.length_cons]
        omega
      obtain ⟨next, values, body, hbody, rfl⟩ := helements after rest hlength hclose
      exact ⟨value, next :: values, _, .nextElement helement hbody, by simp [hcomma]⟩

/-- A member goes on with any gap that follows it. -/
theorem isJson_of_skipMember
    (hvalue : ∀ shorter rest, shorter.length < text.length →
      restOf (skipValue shorter) = .ok rest → StartsWithValue shorter rest)
    (h : skipMember text = .ok rest) : ∃ member body, text = body ++ rest ∧
      ∀ gap, IsGap gap → IsJson (.member member) (body ++ gap) := by
  rw [skipMember] at h
  split at h
  · cases h
  rename_i c inner hstart
  obtain ⟨before, hbefore, -, rfl⟩ := dropSpacing_eq_cons_iff.mp hstart
  split_ifs at h with hquote
  subst hquote
  obtain ⟨named, hname, h⟩ := bind_eq_ok_iff.mp h
  obtain ⟨valued, hcolon, hskip⟩ := bind_eq_ok_iff.mp h
  obtain ⟨name, hbody, rfl⟩ := skipString_eq_ok_iff.mp hname
  obtain ⟨between, hbetween, -, rfl⟩ := dropSpacing_eq_cons_iff.mp (expect_eq_ok_iff.mp hcolon)
  have hlength : valued.length <
      (before ++ '"' :: (name ++ '"' :: (between ++ ':' :: valued))).length := by
    simp only [List.length_append, List.length_cons]
    omega
  obtain ⟨space, value, hspace, hjson, rfl⟩ := hvalue valued rest hlength hskip
  refine ⟨(name, value), before ++ '"' :: (name ++ '"' :: (between ++ ':' :: (space ++ value))),
    by simp, fun gap hgap => ?_⟩
  have hmember := IsJson.member hbefore hbody hbetween (.element hspace hjson hgap)
  simpa using hmember

theorem startsWithMembers_of_skipMembers
    (hvalue : ∀ shorter rest, shorter.length < text.length →
      restOf (skipValue shorter) = .ok rest → StartsWithValue shorter rest)
    (hmembers : ∀ shorter rest, shorter.length < text.length →
      restOf (skipMembers shorter) = .ok rest → StartsWithMembers shorter rest)
    (h : restOf (skipMembers text) = .ok rest) : StartsWithMembers text rest := by
  rw [restOf_skipMembers] at h
  obtain ⟨left, hmember, hclose⟩ := bind_eq_ok_iff.mp h
  obtain ⟨member, written, rfl, hjson⟩ := isJson_of_skipMember hvalue hmember
  rw [close] at hclose
  split at hclose
  · cases hclose
  · rename_i c after hafter
    obtain ⟨gap, hgap, -, rfl⟩ := dropSpacing_eq_cons_iff.mp hafter
    split_ifs at hclose with hbrace hcomma
    · cases hclose
      exact ⟨member, [], _, .lastMember (hjson gap hgap), by simp [hbrace]⟩
    · have hlength : after.length < (written ++ (gap ++ c :: after)).length := by
        simp only [List.length_append, List.length_cons]
        omega
      obtain ⟨next, members, body, hothers, rfl⟩ := hmembers after rest hlength hclose
      exact ⟨member, next :: members, _, .nextMember (hjson gap hgap) hothers, by simp [hcomma]⟩

/-- By the length of the text, values, elements and members at once. -/
theorem startsWith_of_skip (text : List Char) : ∀ rest : List Char,
    (restOf (skipValue text) = .ok rest → StartsWithValue text rest) ∧
    (restOf (skipElements text) = .ok rest → StartsWithElements text rest) ∧
    (restOf (skipMembers text) = .ok rest → StartsWithMembers text rest) := by
  induction hlength : text.length using Nat.strong_induction_on generalizing text with
  | _ n ih =>
    subst hlength
    have hshorter := fun (shorter : List Char) (h : shorter.length < text.length) =>
      ih shorter.length h shorter rfl
    have hvalue : ∀ rest, restOf (skipValue text) = .ok rest → StartsWithValue text rest := by
      intro rest
      exact startsWithValue_of_skipValue (fun shorter rest h => (hshorter shorter h rest).2.1)
        (fun shorter rest h => (hshorter shorter h rest).2.2)
    intro rest
    refine ⟨hvalue rest, ?_, ?_⟩
    · exact startsWithElements_of_skipElements hvalue
        (fun shorter rest h => (hshorter shorter h rest).2.1)
    · exact startsWithMembers_of_skipMembers (fun shorter rest h => (hshorter shorter h rest).1)
        (fun shorter rest h => (hshorter shorter h rest).2.2)

end DialogueScript.Json
