import Mathlib.Data.List.Forall2
import Mathlib.Tactic.SplitIfs
import SessionReplay.Body.Basic
import SessionReplay.Proofs.Outcome

/-!
# Which body is replayed

The method of a request, the kind of its body, the fields and the text decide together. Each lemma
says when one outcome arises, whatever the other parts hold.

* `PostedBody.kind` — the kind of a posted body, as it is compared;
* `Body.formFields_eq_ok_iff`: the fields of a form are decoded one by one, and no two have one name;
* `Body.ofText_eq_absent_iff`, `Body.ofText_ne_form`: what the text of a capture gives;
* **`Body.ofRequest_eq_absent_iff`**, **`Body.ofRequest_eq_form_iff`**: when a request has no body,
  and when it sends a form.
-/

namespace SessionReplay

open Capture (NamedValue PostedBody Request)

/-- The kind of a posted body: its letters are small, and no white space is around it. -/
def Capture.PostedBody.kind (post : PostedBody) : String :=
  Text.asciiLower (Text.trim post.mime)

namespace Body

variable {post : PostedBody} {seen : List String} {param : NamedValue} {params : List NamedValue}
  {field : String × String} {fields : List (String × String)} {reason : Omission} {body : Body}

/-! ## Forms -/

/-- A field as it is decoded. -/
structure Decodes (param : NamedValue) (field : String × String) : Prop where
  name : FormText.decode param.name = some field.1
  value : FormText.decode param.value = some field.2

theorem formField_eq_ok_iff :
    formField seen param = .ok field ↔ Decodes param field ∧ field.1 ∉ seen := by
  rw [formField]
  constructor
  · intro h
    split at h
    · cases h
    · cases h
    · next name value hname hvalue =>
      split_ifs at h with hseen
      cases h
      exact ⟨⟨hname, hvalue⟩, by simpa using hseen⟩
  · rintro ⟨⟨hname, hvalue⟩, hseen⟩
    rw [hname, hvalue]
    simp [hseen]

/-- **The fields of a form** are decoded one by one, and no two have one name. -/
theorem formFields_eq_ok_iff : formFields seen params = .ok fields ↔
    List.Forall₂ Decodes params fields ∧ (fields.map Prod.fst).Nodup ∧
      ∀ name ∈ fields.map Prod.fst, name ∉ seen := by
  induction params generalizing seen fields with
  | nil =>
    rw [formFields, Except.ok.injEq, List.forall₂_nil_left_iff]
    constructor
    · rintro rfl
      exact ⟨rfl, List.nodup_nil, nofun⟩
    · exact fun h => h.1.symm
  | cons param params ih =>
    rw [formFields, bind_eq_ok_iff]
    constructor
    · rintro ⟨first, hfirst, h⟩
      obtain ⟨later, hlater, h⟩ := bind_eq_ok_iff.mp h
      cases h
      obtain ⟨hdecodes, hnew⟩ := formField_eq_ok_iff.mp hfirst
      obtain ⟨hall, hnodup, hnames⟩ := ih.mp hlater
      refine ⟨.cons hdecodes hall, ?_, ?_⟩
      · rw [List.map_cons, List.nodup_cons]
        exact ⟨fun hmem => hnames _ hmem List.mem_cons_self, hnodup⟩
      · rw [List.map_cons, List.forall_mem_cons]
        exact ⟨hnew, fun name hname hseen => hnames name hname (List.mem_cons_of_mem _ hseen)⟩
    · rintro ⟨hall, hnodup, hnames⟩
      obtain _ | @⟨_, first, _, later, hdecodes, hall⟩ := hall
      rw [List.map_cons, List.nodup_cons] at hnodup
      rw [List.map_cons, List.forall_mem_cons] at hnames
      have hlater : formFields (first.1 :: seen) params = .ok later := by
        refine ih.mpr ⟨hall, hnodup.2, fun name hname hseen => ?_⟩
        rcases List.mem_cons.mp hseen with rfl | hseen
        · exact hnodup.1 hname
        · exact hnames.2 name hname hseen
      refine ⟨first, formField_eq_ok_iff.mpr ⟨hdecodes, hnames.1⟩, ?_⟩
      rw [hlater]
      rfl

/-! ## Texts -/

theorem ofBase64_ne_absent (written : String) : ofBase64 written ≠ .absent := by
  rw [ofBase64]
  split
  · nofun
  · split <;> nofun

theorem ofBase64_ne_form (written : String) : ofBase64 written ≠ .form fields := by
  rw [ofBase64]
  split
  · nofun
  · split <;> nofun

/-- **A text is dropped only if it is empty**, whatever its encoding. -/
theorem ofText_eq_absent_iff : ofText post = .absent ↔ post.text.getD "" = "" := by
  rw [ofText]
  by_cases hempty : post.text.getD "" = ""
  · simp [hempty]
  · rw [if_neg (by simpa using hempty), iff_false_right hempty]
    cases post.encoding with
    | plain | other => nofun
    | base64 => exact ofBase64_ne_absent _

theorem ofText_ne_form : ofText post ≠ .form fields := by
  rw [ofText]
  split_ifs
  · nofun
  · cases post.encoding with
    | plain | other => nofun
    | base64 => exact ofBase64_ne_form _

theorem orOmitted_ne_absent : orOmitted reason body ≠ .absent := by
  cases body <;> nofun

theorem orOmitted_eq_form_iff : orOmitted reason body = .form fields ↔ body = .form fields := by
  cases body <;> simp [orOmitted]

/-! ## Requests -/

theorem ofPosted_eq_absent_iff : ofPosted post = .absent ↔ post.text.getD "" = "" ∧
    ¬post.kind.startsWith multipartMime ∧
      ¬(post.kind.startsWith formMime ∧ post.params ≠ []) := by
  rw [ofPosted, ← PostedBody.kind]
  split_ifs with hmultipart hform
  · exact iff_of_false nofun fun h => h.2.1 hmultipart
  · have hfields : post.kind.startsWith formMime ∧ post.params ≠ [] := by simpa using hform
    refine iff_of_false ?_ fun h => h.2.2 hfields
    split
    · nofun
    · exact orOmitted_ne_absent
  · have hfields : ¬(post.kind.startsWith formMime ∧ post.params ≠ []) := by simpa using hform
    rw [ofText_eq_absent_iff, and_iff_left ⟨hmultipart, hfields⟩]

theorem ofPosted_eq_form_iff : ofPosted post = .form fields ↔
    ¬post.kind.startsWith multipartMime ∧ post.kind.startsWith formMime ∧ post.params ≠ [] ∧
      formFields [] post.params = .ok fields := by
  rw [ofPosted, ← PostedBody.kind]
  split_ifs with hmultipart hform
  · exact iff_of_false nofun fun h => h.1 hmultipart
  · have hfields : post.kind.startsWith formMime ∧ post.params ≠ [] := by simpa using hform
    rw [and_iff_right hmultipart, and_iff_right hfields.1, and_iff_right hfields.2]
    cases formFields [] post.params with
    | ok found => simp
    | error reason => simp [orOmitted_eq_form_iff, ofText_ne_form]
  · have hfields : ¬(post.kind.startsWith formMime ∧ post.params ≠ []) := by simpa using hform
    exact iff_of_false ofText_ne_form fun h => hfields ⟨h.2.1, h.2.2.1⟩

/-- **When a request has no body**: it is a GET, nothing was captured, or what was captured has no
text and is no body of several parts and no form with fields. -/
theorem ofRequest_eq_absent_iff {request : Request} : ofRequest request = .absent ↔
    Text.sameLetters request.method "GET" ∨ ∀ post ∈ request.post, post.text.getD "" = "" ∧
      ¬post.kind.startsWith multipartMime ∧
        ¬(post.kind.startsWith formMime ∧ post.params ≠ []) := by
  rw [ofRequest]
  cases request.post with
  | none => simp
  | some post =>
    dsimp only
    split_ifs with hget
    · exact iff_of_true rfl (.inl hget)
    · simp [hget, ofPosted_eq_absent_iff]

/-- **When a request sends a form**: it is no GET, and all fields of its form are decoded. -/
theorem ofRequest_eq_form_iff {request : Request} : ofRequest request = .form fields ↔
    ¬Text.sameLetters request.method "GET" ∧ ∃ post ∈ request.post,
      ¬post.kind.startsWith multipartMime ∧ post.kind.startsWith formMime ∧ post.params ≠ [] ∧
        formFields [] post.params = .ok fields := by
  rw [ofRequest]
  cases request.post with
  | none => simp
  | some post =>
    dsimp only
    split_ifs with hget
    · exact iff_of_false nofun fun h => h.1 hget
    · simp [hget, ofPosted_eq_form_iff]

end Body

/-! ## Requests to try -/

/-- A request for a page. -/
def pageRequest : Request :=
  { method := "GET"
    url := ⟨"http", some ⟨"", none, .name "host.test", none⟩, "/", none, none⟩
    headers := []
    cookies := []
    post := none }

/-- A request that posts a body. -/
def postRequest (post : PostedBody) : Request :=
  { pageRequest with method := "POST", post := some post }

end SessionReplay
