import SessionReplay.Proofs.Body.Dispatch

/-!
# Forms that are rebuilt

The fields of a form are sent as fields if all of them can be rebuilt from their captured text. If
one cannot, the request is treated as if it had no fields, and the first field that stands in the
way is named in case that leaves nothing to send.

* `Body.Rebuilds` — fields that are rebuilt, one for each captured field;
* `Body.Offends`, `Body.FirstOffence` — what stands in the way of one field, and the first field
  that offends;
* `Body.formFields_eq_error_iff`: reading the fields ends at the first one that offends;
* `Body.PostsForm` — a request that posts the fields of a form;
* **`Body.posted_form_exact`**: what becomes of such a request.
-/

namespace SessionReplay.Body

open Capture (NamedValue PostedBody Request)

variable {request : Request} {post : PostedBody} {seen names : List String} {param : NamedValue}
  {params : List NamedValue} {fields : List (String × String)} {reason : Omission}

/-! ## Fields that are rebuilt -/

/-- Fields that are rebuilt: each captured field is decoded, and no two have one name. -/
structure Rebuilds (params : List NamedValue) (fields : List (String × String)) : Prop where
  decodes : List.Forall₂ Decodes params fields
  nodup : (fields.map Prod.fst).Nodup

theorem formFields_eq_ok_iff_rebuilds :
    formFields [] params = .ok fields ↔ Rebuilds params fields := by
  rw [formFields_eq_ok_iff]
  constructor
  · rintro ⟨hdecodes, hnodup, -⟩
    exact ⟨hdecodes, hnodup⟩
  · rintro ⟨hdecodes, hnodup⟩
    exact ⟨hdecodes, hnodup, fun _ _ => List.not_mem_nil⟩

/-! ## Fields that offend -/

/-- What stands in the way of a field behind fields with the given names: its name is no text, else
its value is none, else its name is one of these. -/
inductive Offends (names : List String) (param : NamedValue) : Omission → Prop
  | name : FormText.decode param.name = none → Offends names param (.nameNotText param.name)
  | value {name : String} : FormText.decode param.name = some name →
    FormText.decode param.value = none → Offends names param (.valueNotText param.name)
  | repeated (field : String × String) : Decodes param field → field.1 ∈ names →
    Offends names param (.repeatedName field.1)

/-- The first field that offends: those before it are rebuilt. -/
def FirstOffence (params : List NamedValue) (reason : Omission) : Prop :=
  ∃ before param after fields, params = before ++ param :: after ∧ Rebuilds before fields ∧
    Offends (fields.map Prod.fst) param reason

theorem Offends.congr (hnames : ∀ name, name ∈ names ↔ name ∈ seen)
    (h : Offends names param reason) : Offends seen param reason := by
  cases h with
  | name hname => exact .name hname
  | value hname hvalue => exact .value hname hvalue
  | repeated field hdecodes hmem => exact .repeated field hdecodes ((hnames _).mp hmem)

/-- What is said of a field that offends. -/
theorem Offends.message (h : Offends names param reason) : ∃ name,
    (reason = .nameNotText name ∧
      reason.message = "form field name " ++ Text.quoted name ++ " is not UTF-8") ∨
    (reason = .valueNotText name ∧
      reason.message = "form field " ++ Text.quoted name ++ " value is not UTF-8") ∨
    (reason = .repeatedName name ∧
      reason.message = "form field " ++ Text.quoted name ++ " is repeated") := by
  cases h with
  | name hname => exact ⟨param.name, .inl ⟨rfl, rfl⟩⟩
  | value hname hvalue => exact ⟨param.name, .inr (.inl ⟨rfl, rfl⟩)⟩
  | repeated field hdecodes hmem => exact ⟨field.1, .inr (.inr ⟨rfl, rfl⟩)⟩

theorem formField_eq_error_iff :
    formField seen param = .error reason ↔ Offends seen param reason := by
  rw [formField]
  constructor
  · intro h
    split at h
    · next hname =>
      cases h
      exact .name hname
    · next hvalue hname =>
      cases h
      obtain ⟨name, hname⟩ := Option.ne_none_iff_exists'.mp hname
      exact .value hname hvalue
    · next name value hname hvalue =>
      split_ifs at h with hseen
      cases h
      exact .repeated (name, value) ⟨hname, hvalue⟩ (List.contains_iff_mem.mp hseen)
  · rintro (hname | ⟨hname, hvalue⟩ | ⟨field, ⟨hname, hvalue⟩, hseen⟩)
    · rw [hname]
    · rw [hname, hvalue]
    · rw [hname, hvalue]
      exact if_pos (List.contains_iff_mem.mpr hseen)

/-- **Reading ends at the first field that offends.** The names that count are those of the fields
before it and those that were seen already. -/
theorem formFields_eq_error_iff : formFields seen params = .error reason ↔
    ∃ before param after fields, params = before ++ param :: after ∧
      formFields seen before = .ok fields ∧
        Offends (fields.map Prod.fst ++ seen) param reason := by
  induction params generalizing seen with
  | nil =>
    refine iff_of_false nofun ?_
    rintro ⟨before, param, after, fields, h, -⟩
    exact List.append_ne_nil_of_right_ne_nil before (List.cons_ne_nil param after) h.symm
  | cons first params ih =>
    rw [formFields, bind_eq_error_iff]
    constructor
    · rintro (hfirst | ⟨field, hfirst, h⟩)
      · exact ⟨[], first, params, [], rfl, rfl, formField_eq_error_iff.mp hfirst⟩
      · obtain h | ⟨fields, -, h⟩ := bind_eq_error_iff.mp h
        · obtain ⟨before, param, after, fields, rfl, hbefore, hoffends⟩ := ih.mp h
          refine ⟨first :: before, param, after, field :: fields, rfl, ?_, ?_⟩
          · rw [formFields, hfirst]
            change formFields (field.1 :: seen) before >>= _ = _
            rw [hbefore]
            rfl
          · refine hoffends.congr fun name => ?_
            simp only [List.map_cons, List.mem_append, List.mem_cons]
            tauto
        · exact absurd h pure_ne_error
    · rintro ⟨before, param, after, fields, h, hbefore, hoffends⟩
      cases before with
      | nil =>
        obtain ⟨rfl, rfl⟩ := List.cons.inj h
        cases hbefore
        exact .inl (formField_eq_error_iff.mpr hoffends)
      | cons head before =>
        obtain ⟨rfl, rfl⟩ := List.cons.inj h
        obtain ⟨field, hfirst, hbefore⟩ := bind_eq_ok_iff.mp hbefore
        obtain ⟨later, hlater, hbefore⟩ := bind_eq_ok_iff.mp hbefore
        cases hbefore
        refine .inr ⟨field, hfirst, bind_eq_error_iff.mpr (.inl (ih.mpr ?_))⟩
        refine ⟨before, param, after, later, rfl, hlater, hoffends.congr fun name => ?_⟩
        simp only [List.map_cons, List.mem_append, List.mem_cons]
        tauto

theorem formFields_eq_error_iff_firstOffence :
    formFields [] params = .error reason ↔ FirstOffence params reason := by
  simp only [formFields_eq_error_iff, formFields_eq_ok_iff_rebuilds, List.append_nil]
  rfl

/-! ## Requests -/

/-- A request that posts the fields of a form: it is no GET, its body is said to be a form, and
fields were captured. -/
structure PostsForm (request : Request) (post : PostedBody) : Prop where
  not_get : ¬Text.sameLetters request.method "GET"
  post_eq : request.post = some post
  kind : post.kind.startsWith formMime
  params_ne_nil : post.params ≠ []

/-- A request with the same body, of which no fields were captured. -/
def withoutFields (request : Request) (post : PostedBody) : Request :=
  { request with post := some { post with params := [] } }

/-- The kind of a form is not that of a body of several parts. -/
theorem not_multipart_of_form (h : post.kind.startsWith formMime) :
    ¬post.kind.startsWith multipartMime := by
  intro hmultipart
  rw [String.startsWith_string_iff] at h hmultipart
  obtain ⟨parameters, hform⟩ := h
  obtain ⟨boundary, hmultipart⟩ := hmultipart
  have hhead := congrArg List.head? (hform.trans hmultipart.symm)
  rw [List.head?_append, List.head?_append] at hhead
  have hletter : some 'a' = some 'm' := hhead
  exact absurd hletter (by decide)

theorem PostsForm.ofRequest_of_ok (h : PostsForm request post)
    (hfields : formFields [] post.params = .ok fields) : ofRequest request = .form fields := by
  refine ofRequest_eq_form_iff.mpr ⟨h.not_get, post, h.post_eq, ?_⟩
  exact ⟨not_multipart_of_form h.kind, h.kind, h.params_ne_nil, hfields⟩

theorem PostsForm.ofRequest_of_error (h : PostsForm request post)
    (hfields : formFields [] post.params = .error reason) :
    ofRequest request = orOmitted reason (ofText post) := by
  have hparams : post.kind.startsWith formMime ∧ !post.params.isEmpty :=
    ⟨h.kind, by simpa using h.params_ne_nil⟩
  rw [ofRequest, h.post_eq]
  dsimp only
  rw [if_neg h.not_get, ofPosted, ← PostedBody.kind, if_neg (not_multipart_of_form h.kind),
    if_pos hparams, hfields]

/-- Without fields, the text counts. -/
theorem PostsForm.ofRequest_withoutFields (h : PostsForm request post) :
    ofRequest (withoutFields request post) = ofText post := by
  have hnone : ¬(post.kind.startsWith formMime ∧ !([] : List NamedValue).isEmpty) := by simp
  rw [ofRequest, withoutFields]
  dsimp only
  rw [if_neg h.not_get, ofPosted]
  dsimp only
  rw [← PostedBody.kind, if_neg (not_multipart_of_form h.kind), if_neg hnone]
  rfl

/-- **A form is rebuilt exactly or not at all.** It is sent as fields if and only if each captured
field is decoded and no two have one name; these are then the fields that are sent. Otherwise some
field is the first that offends, and what is sent is what the request would send if it had no
fields, or a note that names this field if that is nothing. The note says what is wrong with it. -/
theorem posted_form_exact (h : PostsForm request post) :
    (∀ fields, ofRequest request = .form fields ↔ Rebuilds post.params fields) ∧
    (∀ reason, FirstOffence post.params reason →
      (ofRequest (withoutFields request post) = .absent → ofRequest request = .omitted reason ∧
        ∃ name,
          (reason = .nameNotText name ∧
            reason.message = "form field name " ++ Text.quoted name ++ " is not UTF-8") ∨
          (reason = .valueNotText name ∧
            reason.message = "form field " ++ Text.quoted name ++ " value is not UTF-8") ∨
          (reason = .repeatedName name ∧
            reason.message = "form field " ++ Text.quoted name ++ " is repeated")) ∧
      (ofRequest (withoutFields request post) ≠ .absent →
        ofRequest request = ofRequest (withoutFields request post))) ∧
    ((∃ fields, ofRequest request = .form fields) ∨
      ∃ reason, FirstOffence post.params reason) := by
  refine ⟨fun fields => ?_, fun reason hoffence => ?_, ?_⟩
  · rw [← formFields_eq_ok_iff_rebuilds]
    constructor
    · intro hform
      obtain ⟨-, found, hfound, -, -, -, hfields⟩ := ofRequest_eq_form_iff.mp hform
      rw [h.post_eq, Option.mem_some_iff] at hfound
      rwa [hfound]
    · exact h.ofRequest_of_ok
  · have herror := h.ofRequest_of_error (formFields_eq_error_iff_firstOffence.mpr hoffence)
    obtain ⟨_, _, _, _, -, -, hoffends⟩ := hoffence
    rw [herror, h.ofRequest_withoutFields]
    cases ofText post with
    | absent => exact ⟨fun _ => ⟨rfl, hoffends.message⟩, fun hne => absurd rfl hne⟩
    | text | form | omitted => exact ⟨nofun, fun _ => rfl⟩
  · cases hfields : formFields [] post.params with
    | ok fields => exact .inl ⟨fields, h.ofRequest_of_ok hfields⟩
    | error reason => exact .inr ⟨reason, formFields_eq_error_iff_firstOffence.mp hfields⟩

/-- A form with a name that is written in two ways, and no text beside it. -/
def repeatedForm : PostedBody :=
  ⟨" Application/X-WWW-Form-URLEncoded", none, .plain,
    [⟨"a%5B%5D", "1"⟩, ⟨"q", "x+y"⟩, ⟨"a[]", "2"⟩]⟩

theorem posted_form_exact_repeatedForm :
    PostsForm (postRequest repeatedForm) repeatedForm ∧
    FirstOffence repeatedForm.params (.repeatedName "a[]") ∧
    ofRequest (withoutFields (postRequest repeatedForm) repeatedForm) = .absent ∧
    ∃ reason, ofRequest (postRequest repeatedForm) = .omitted reason ∧
      reason.message = "form field \"a[]\" is repeated" := by
  have hposts : PostsForm (postRequest repeatedForm) repeatedForm :=
    ⟨by decide +kernel, rfl, by decide +kernel, nofun⟩
  have hbefore : Rebuilds [⟨"a%5B%5D", "1"⟩, ⟨"q", "x+y"⟩] [("a[]", "1"), ("q", "x y")] :=
    ⟨.cons ⟨by decide +kernel, by decide +kernel⟩
      (.cons ⟨by decide +kernel, by decide +kernel⟩ .nil), by decide⟩
  have hoffence : FirstOffence repeatedForm.params (.repeatedName "a[]") :=
    ⟨_, ⟨"a[]", "2"⟩, [], _, rfl, hbefore,
      .repeated ("a[]", "2") ⟨by decide +kernel, by decide +kernel⟩ (by decide)⟩
  have habsent : ofRequest (withoutFields (postRequest repeatedForm) repeatedForm) = .absent := by
    decide +kernel
  obtain ⟨homitted, -⟩ := ((posted_form_exact hposts).2.1 _ hoffence).1 habsent
  exact ⟨hposts, hoffence, habsent, _, homitted, by decide +kernel⟩

end SessionReplay.Body
