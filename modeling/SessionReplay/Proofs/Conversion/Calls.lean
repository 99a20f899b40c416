import SessionReplay.Proofs.Body.Dispatch
import SessionReplay.Proofs.Conversion.ReadBack
import SessionReplay.Proofs.Headers
import SessionReplay.Proofs.Script.Properties

/-!
# What the call of a request keeps

A call is read back from its text, and the literals in it are evaluated. What they keep of the
request is all of it but for three cases: fields that come without a text and not as a form, a field
or cookie under the name of the prototype, and cookies that share a name.

* `Conversion.read?_call`: the call of a request is read from its text;
* **`call_without_body_iff`**: when a call has neither a body nor a note in place of one;
* **`form_call_properties`**: the object that a form is sent as;
* **`cookie_call_properties`**: the object that cookies are sent as;
* **`header_call_selection`**: the headers that are sent again.
-/

namespace SessionReplay

open Capture (NamedValue PostedBody Request)
open Script (Call Properties prototypeName)

/-! ## Reading calls -/

namespace Conversion

/-- **The call of a request is read from its text.** -/
theorem read?_call (request : Request) : Call.read? (call request).text = some (call request) :=
  Call.read?_text (noteOneLine_payload (Body.ofRequest request))

theorem payload_eq_absent_iff {body : Body} : payload body = .absent ↔ body = .absent := by
  cases body <;> simp [payload]

end Conversion

/-! ## Bodies -/

/-- **When a call has neither a body nor a note in place of one.** That is right for a GET and where
nothing was captured. A captured text is never dropped, and fields are kept or noted if they are
those of a form or belong to a body of several parts; but fields of any other kind are dropped if
there is no text beside them. -/
theorem call_without_body_iff (request : Request) :
    (∃ call, Call.read? (Conversion.call request).text = some call ∧
      (call.payload = .absent ↔ Body.ofRequest request = .absent)) ∧
    (Body.ofRequest request = .absent ↔
      Text.sameLetters request.method "GET" ∨ ∀ post ∈ request.post,
        post.text.getD "" = "" ∧ (post.params = [] ∨
          ¬post.kind.startsWith formMime) ∧ ¬post.kind.startsWith multipartMime) := by
  refine ⟨⟨_, Conversion.read?_call request, Conversion.payload_eq_absent_iff⟩, ?_⟩
  rw [Body.ofRequest_eq_absent_iff]
  refine or_congr_right (forall₂_congr fun post _ => and_congr_right fun _ => ?_)
  tauto

/-- A body with a field and no text beside it, which is not said to be a form. -/
def fieldWithoutText : PostedBody :=
  ⟨"text/plain", none, .plain, [⟨"a", "b"⟩]⟩

/-- The field is dropped, and there is no note of it. -/
theorem field_without_text_is_dropped :
    Text.sameLetters (postRequest fieldWithoutText).method "GET" = false ∧
    fieldWithoutText.params ≠ [] ∧
    Body.ofRequest (postRequest fieldWithoutText) = .absent := by
  decide +kernel

/-! ## Forms -/

/-- **The object that a form is sent as.** The literal of a body gives each field that was captured
its decoded name and value, and the object has no other properties; but a field under the name of
the prototype is lost. -/
theorem form_call_properties {request : Request} {fields : List (String × String)}
    (h : Body.ofRequest request = .form fields) :
    ∃ call definitions object,
      Call.read? (Conversion.call request).text = some call ∧
      call.payload = .form definitions ∧
      Properties.ofFields? definitions = some object ∧
      (∃ post ∈ request.post, List.Forall₂ Body.Decodes post.params fields) ∧
      (∀ name value, object name = some value ↔
        name ≠ prototypeName ∧ (name, value) ∈ fields) ∧
      (object.Keeps fields ↔ ∀ field ∈ fields, field.1 ≠ prototypeName) := by
  obtain ⟨-, post, hpost, -, -, -, hfields⟩ := Body.ofRequest_eq_form_iff.mp h
  obtain ⟨hdecodes, hnodup, -⟩ := Body.formFields_eq_ok_iff.mp hfields
  have hpayload : (Conversion.call request).payload = .form fields := by
    rw [Conversion.call, h]
    rfl
  obtain ⟨object, hobject, hproperties⟩ := Properties.ofFields?_of_nodup hnodup
  refine ⟨_, fields, object, Conversion.read?_call request, hpayload, hobject,
    ⟨post, hpost, hdecodes⟩, hproperties, ?_⟩
  exact forall₂_congr fun field hfield => by
    rw [hproperties, and_iff_left hfield]

/-- A form whose fields are written with escapes. -/
def escapedForm : PostedBody :=
  ⟨"application/x-www-form-urlencoded; charset=UTF-8", none, .plain,
    [⟨"user%5Bname%5D", "J+Doe"⟩, ⟨"q", "a%26b"⟩]⟩

theorem form_call_properties_escapedForm :
    Body.ofRequest (postRequest escapedForm) = .form [("user[name]", "J Doe"), ("q", "a&b")] ∧
    ∃ call definitions object,
      Call.read? (Conversion.call (postRequest escapedForm)).text = some call ∧
      call.payload = .form definitions ∧
      Properties.ofFields? definitions = some object ∧
      object "user[name]" = some "J Doe" ∧ object "q" = some "a&b" ∧
      object "user%5Bname%5D" = none := by
  have hform : Body.ofRequest (postRequest escapedForm) =
      .form [("user[name]", "J Doe"), ("q", "a&b")] := by decide +kernel
  obtain ⟨call, definitions, object, hcall, hpayload, hobject, -, hproperties, hkeeps⟩ :=
    form_call_properties hform
  have hkept := hkeeps.mpr (by decide)
  refine ⟨hform, call, definitions, object, hcall, hpayload, hobject,
    hkept _ List.mem_cons_self, hkept _ (List.mem_cons_of_mem _ List.mem_cons_self), ?_⟩
  rw [Option.eq_none_iff_forall_ne_some]
  intro value hvalue
  have hfield := ((hproperties _ value).mp hvalue).2
  simp at hfield

/-- A form with a field under the name of the prototype. -/
def prototypeForm : PostedBody :=
  ⟨formMime, some "__proto__=1", .plain, [⟨"__proto__", "1"⟩]⟩

/-- The field is sent in an object that does not have it. -/
theorem prototype_field_is_lost :
    Body.ofRequest (postRequest prototypeForm) = .form [("__proto__", "1")] ∧
    ∃ call object, Call.read? (Conversion.call (postRequest prototypeForm)).text = some call ∧
      call.payload = .form [("__proto__", "1")] ∧
      Properties.ofFields? [("__proto__", "1")] = some object ∧
      object "__proto__" = none := by
  have hform : Body.ofRequest (postRequest prototypeForm) = .form [("__proto__", "1")] := by
    decide +kernel
  refine ⟨hform, _, _, Conversion.read?_call _, ?_, rfl, rfl⟩
  rw [Conversion.call, hform]
  rfl

/-! ## Cookies -/

/-- **The object that cookies are sent as**, in place of the header that carries them. Each name
has the value of its last cookie, so that all cookies are kept if no two differ under one name and
none has the name of the prototype, and only then; two of that name make no literal at all. -/
theorem cookie_call_properties {request : Request} (h : request.cookies ≠ []) :
    ∃ call, Call.read? (Conversion.call request).text = some call ∧
      (∀ header ∈ call.headers, Headers.key header ≠ "cookie") ∧
      ((∃ object, Properties.ofFields? (call.cookies.map Script.fieldOf) = some object ∧
        ∀ cookie ∈ request.cookies, object cookie.name = some cookie.value) ↔
          (∀ cookie ∈ request.cookies, cookie.name ≠ prototypeName) ∧
          ∀ a ∈ request.cookies, ∀ b ∈ request.cookies, a.name = b.name → a.value = b.value) ∧
      (∀ object, Properties.ofFields? (call.cookies.map Script.fieldOf) = some object →
        ∀ name, object name = if name = prototypeName then none
          else (request.cookies.map Script.fieldOf).reverse.lookup name) ∧
      (Properties.ofFields? (call.cookies.map Script.fieldOf) = none ↔
        2 ≤ (request.cookies.map NamedValue.name).count prototypeName) := by
  refine ⟨_, Conversion.read?_call request, fun header hheader => ?_,
    Properties.exists_keeps_values_iff, fun object hobject => Properties.ofFields?_apply hobject,
    ?_⟩
  · have hreplayed : (!request.cookies.isEmpty) = true := by
      rwa [Bool.not_eq_true', List.isEmpty_eq_false_iff]
    have hseen := Headers.key_notMem_of_mem_fresh hheader
    rw [hreplayed] at hseen
    intro hcookie
    rw [hcookie] at hseen
    exact hseen (by decide)
  · have hnames : (request.cookies.map Script.fieldOf).map Prod.fst =
        request.cookies.map NamedValue.name := List.map_map
    rw [← hnames]
    exact Properties.ofFields?_eq_none_iff

/-- A request with cookies, which a header carries too. -/
def cookieRequest (cookies : List NamedValue) : Request :=
  { pageRequest with
    headers := [⟨"Cookie", "; ".intercalate (cookies.map fun c => c.name ++ "=" ++ c.value)⟩]
    cookies }

/-- Cookies of which two are the same. -/
def repeatedCookies : List NamedValue := [⟨"id", "1"⟩, ⟨"lang", "en"⟩, ⟨"id", "1"⟩]

theorem cookie_call_properties_repeatedCookies :
    (cookieRequest repeatedCookies).cookies ≠ [] ∧
    ∃ call object,
      Call.read? (Conversion.call (cookieRequest repeatedCookies)).text = some call ∧
      Properties.ofFields? (call.cookies.map Script.fieldOf) = some object ∧
      object "id" = some "1" ∧ object "lang" = some "en" := by
  have hsome : (cookieRequest repeatedCookies).cookies ≠ [] := nofun
  obtain ⟨call, hcall, -, hkept, -⟩ := cookie_call_properties hsome
  obtain ⟨object, hobject, hvalues⟩ := hkept.mpr ⟨by decide, by decide⟩
  exact ⟨hsome, call, object, hcall, hobject, hvalues ⟨"id", "1"⟩ (by decide),
    hvalues ⟨"lang", "en"⟩ (by decide)⟩

/-- Two cookies of one name, as servers set them for two paths: the first one is lost, and the
header that carries both is not sent. -/
theorem cookie_of_one_name_is_lost :
    ∃ call object,
      Call.read? (Conversion.call (cookieRequest [⟨"id", "1"⟩, ⟨"id", "2"⟩])).text = some call ∧
      call.headers = [] ∧
      Properties.ofFields? (call.cookies.map Script.fieldOf) = some object ∧
      ⟨"id", "1"⟩ ∈ (cookieRequest [⟨"id", "1"⟩, ⟨"id", "2"⟩]).cookies ∧
      object "id" = some "2" :=
  ⟨_, _, Conversion.read?_call _, by decide +kernel, rfl, by decide, rfl⟩

/-! ## Headers -/

/-- **The headers that are sent again** stand in a list of headers at the places that the rule
admits: each name that may be sent has its first captured header, no name is sent twice, and
choosing again changes nothing. So the cookies of a request are sent on their own, or in the first
header that carries cookies, but never in both. -/
theorem header_call_selection :
    (∀ (headers : List NamedValue) (withCookies : Bool),
      Headers.replayed headers withCookies =
        (headers.zipIdx.filter fun place => Headers.Replayable withCookies place.1 ∧
          Headers.IsFirst headers place.2 place.1).map Prod.fst ∧
      ((Headers.replayed headers withCookies).map Headers.key).Nodup ∧
      (∀ header ∈ headers, Headers.Replayable withCookies header →
        ∃ first ∈ Headers.replayed headers withCookies,
          headers.find? (Headers.key · = Headers.key header) = some first) ∧
      Headers.replayed (Headers.replayed headers withCookies) withCookies =
        Headers.replayed headers withCookies) ∧
    ∀ request, ∃ call, Call.read? (Conversion.call request).text = some call ∧
      call.headers = Headers.replayed request.headers (request.cookies ≠ []) ∧
      call.cookies = request.cookies ∧
      call.headers.filter (Headers.key · = "cookie") =
        if call.cookies = [] then (request.headers.find? (Headers.key · = "cookie")).toList
        else [] := by
  refine ⟨fun headers withCookies => ⟨Headers.replayed_eq_filter headers withCookies,
    Headers.nodup_map_key_fresh _ headers, fun _ => Headers.exists_first_mem_replayed,
    Headers.fresh_fresh _ headers⟩, fun request => ?_⟩
  have hreplayed : (Conversion.call request).headers =
      Headers.replayed request.headers (request.cookies ≠ []) := by
    rw [Conversion.call]
    cases request.cookies <;> rfl
  refine ⟨_, Conversion.read?_call request, hreplayed, rfl, ?_⟩
  rw [hreplayed, Headers.filter_cookie_replayed]
  change _ = if request.cookies = [] then _ else _
  simp only [decide_eq_true_iff, ne_eq, ite_not]

/-- Headers of which two share a name. -/
def repeatedHeaders : List NamedValue :=
  [⟨":path", "/"⟩, ⟨"Accept", "*/*"⟩, ⟨"Accept", "text/html"⟩]

theorem header_call_selection_repeatedHeaders :
    ⟨"Accept", "text/html"⟩ ∈ repeatedHeaders ∧
    Headers.Replayable true ⟨"Accept", "text/html"⟩ ∧
    ⟨"Accept", "*/*"⟩ ∈ Headers.replayed repeatedHeaders true := by
  have hmem : ⟨"Accept", "text/html"⟩ ∈ repeatedHeaders := by decide
  have hreplayable : Headers.Replayable true ⟨"Accept", "text/html"⟩ := by decide +kernel
  obtain ⟨first, hsent, hfind⟩ :=
    (header_call_selection.1 repeatedHeaders true).2.2.1 _ hmem hreplayable
  have hpath : Headers.key ⟨":path", "/"⟩ ≠ Headers.key ⟨"Accept", "text/html"⟩ := by
    decide +kernel
  have hfirst : Headers.key ⟨"Accept", "*/*"⟩ = Headers.key ⟨"Accept", "text/html"⟩ := rfl
  rw [repeatedHeaders, List.find?_cons_of_neg (by simpa using hpath),
    List.find?_cons_of_pos (by simpa using hfirst), Option.some.injEq] at hfind
  rw [hfind]
  exact ⟨hmem, hreplayable, hsent⟩

end SessionReplay
