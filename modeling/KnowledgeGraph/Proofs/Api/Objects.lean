import KnowledgeGraph.Proofs.Api.Envelope
import KnowledgeGraph.Proofs.Api.Forms
import KnowledgeGraph.Proofs.Api.Protection
import KnowledgeGraph.Proofs.Api.Sharing
import KnowledgeGraph.Proofs.Asset.Keeping
import KnowledgeGraph.Proofs.Http.MediaType

/-!
# Objects that are uploaded

An upload is kept as it is, and told to its readers as what it was said to be. What its bytes are
recognised to be is told only if it was said to be nothing in particular.
-/

namespace KnowledgeGraph

open Http

-- ---------------------------------------------------------------------------
-- What bytes are and are said to be
-- ---------------------------------------------------------------------------

namespace Asset

/-- The type that bytes are recognised to be of; if they are not, the type they are said to be of. -/
def properType (bytes : ByteArray) (declared : Option String) : String :=
  (recognize? bytes).getD (declared.getD defaultContentType)

/-- Bytes that are recognised are said to be of another type, and not just to be bytes. -/
def Misleads (bytes : ByteArray) (declared : Option String) : Prop :=
  ∃ kind said, recognize? bytes = some kind ∧ declared = some said ∧
    said ≠ defaultContentType ∧ said ≠ kind

theorem typeOf_of_said (hne : said ≠ "") (hsaid : said ≠ defaultContentType) :
    typeOf bytes (some said) = said := by
  simp [typeOf, Option.filter_some, hne, hsaid]

theorem typeOf_eq_sniff (h : ∀ said, declared = some said → said = defaultContentType) :
    typeOf bytes declared = sniff bytes := by
  cases declared with
  | none => rfl
  | some said => simp [typeOf, Option.filter_some, h said rfl]

theorem unsaid_or_said (declared : Option String) :
    (∀ said, declared = some said → said = defaultContentType) ∨
      ∃ said, declared = some said ∧ said ≠ defaultContentType := by
  refine (Classical.em _).imp_right fun hsaid => ?_
  obtain ⟨said, hsaid⟩ := not_forall.mp hsaid
  exact ⟨said, Classical.not_imp.mp hsaid⟩

theorem typeOf_eq_properType_iff (hne : declared ≠ some "") :
    typeOf bytes declared = properType bytes declared ↔ ¬ Misleads bytes declared := by
  rcases unsaid_or_said declared with hsaid | ⟨said, rfl, hother⟩
  · have hdefault : declared.getD defaultContentType = defaultContentType := by
      cases declared with
      | none => rfl
      | some said => exact hsaid said rfl
    rw [typeOf_eq_sniff hsaid, properType, hdefault]
    refine iff_of_true rfl ?_
    rintro ⟨-, said, -, hdeclared, hother, -⟩
    exact hother (hsaid said hdeclared)
  · rw [typeOf_of_said (fun h => hne (congrArg some h)) hother, properType]
    cases hbytes : recognize? bytes with
    | none => simp [Misleads, hbytes]
    | some kind => simp [Misleads, hbytes, hother]

theorem isLegalValue_sniff (bytes : ByteArray) :
    isLegalValue (Text.Utf8.bytes (sniff bytes)) = true := by
  have hkinds : ∀ kind ∈ contentTypes, isLegalValue (Text.Utf8.bytes kind.1) = true := by
    decide +kernel
  have hfound (p : String × (List UInt8 → Bool) → Bool) : isLegalValue (Text.Utf8.bytes
      (((contentTypes.find? p).map (·.1)).getD defaultContentType)) = true := by
    cases hkind : contentTypes.find? p with
    | none => decide +kernel
    | some kind => exact hkinds kind (List.mem_of_find?_eq_some hkind)
  exact hfound _

end Asset

-- ---------------------------------------------------------------------------
-- Past the door
-- ---------------------------------------------------------------------------

namespace Api

section
variable {answer : (c : Call) → σ → c.Answer × σ} {s : Service} {r : Request}

theorem run_respond_of_ok {operation : Workflow α} {encode : α → Response}
    (h : operation.run answer x = (.ok a, y)) :
    (respond operation encode).run answer x = (.ok (encode a), y) := by
  rw [respond, Workflow.run_bind, Workflow.run_attempt, h]
  rfl

theorem run_handle_of_letsThrough (he : s.endpoint? r.path = some e) (hsecure : e.isSecure = true)
    (hmethod : e.accepts r.method = true) (hlets : s.LetsThrough r ws now)
    (hid : answer (.entropy idEntropy) x = (drawn, y)) (hnow : answer .now y = (now, z)) :
    ∃ claims, ∀ inner z', (s.answer ⟨r, some claims⟩ e).run answer z = (.ok inner, z') →
      (s.handle r ws).1.run answer x =
        (.ok (s.dress r (requestId r drawn) (share s.origins r (protect inner))),
          (answer (.count (.answered r.method inner.status)) z').2) := by
  obtain ⟨hroom, claims, hbears⟩ := hlets
  refine ⟨claims, fun inner z' hinner => ?_⟩
  have hhandle : (s.handle r ws).1 = s.track r (s.receive r ws).1 := rfl
  obtain ⟨hrun, -⟩ := run_dispatch_of_bears he hsecure hnow hbears
  rw [Service.visit, if_pos hmethod, hinner] at hrun
  have htrack := run_track hid (run_reply_admitted hrun)
  rcases s.receive_cases r ws with ⟨hoptions, -⟩ | ⟨-, -, ⟨hfull, -⟩ | ⟨-, ha⟩⟩
  · rw [hoptions, e.not_accepts_options] at hmethod
    cases hmethod
  · rw [hroom] at hfull
    cases hfull
  · rw [hhandle, ha, htrack, status_share, status_protect]

theorem letsThrough_of_status (he : s.endpoint? r.path = some e) (hsecure : e.isSecure = true)
    (hmethod : e.accepts r.method = true) (hid : answer (.entropy idEntropy) x = (drawn, y))
    (hnow : answer .now y = (now, z)) (hrun : (s.handle r ws).1.run answer x = (.ok res, x'))
    (hok : res.status = 200) : s.LetsThrough r ws now := by
  have hhandle : (s.handle r ws).1 = s.track r (s.receive r ws).1 := rfl
  rw [hhandle] at hrun
  rcases s.receive_cases r ws with ⟨hoptions, -⟩ | ⟨-, -, ⟨-, after, ha⟩ | ⟨hroom, ha⟩⟩
  · rw [hoptions, e.not_accepts_options] at hmethod
    cases hmethod
  · have hreply : (s.reply r (.limited after)).run answer y =
        (.ok (share s.origins r (protect (tooMany after))), (answer (.count .rateLimited) y).2) :=
      rfl
    rw [ha, run_track hid hreply] at hrun
    cases hrun
    simp [tooMany, Response.ofJson] at hok
  · refine ⟨hroom, Classical.byContradiction fun hbears => ?_⟩
    obtain ⟨z', hdispatch, -⟩ :=
      run_dispatch_of_not_bears he hsecure hnow (not_exists.mp hbears)
    rw [ha, run_track hid (run_reply_admitted hdispatch)] at hrun
    cases hrun
    simp [unauthorized, Response.ofError, Response.ofJson, Error.status] at hok

end

-- ---------------------------------------------------------------------------
-- Uploads
-- ---------------------------------------------------------------------------

/-- A request uploads bytes to a place, and says of which type they are. -/
structure Uploads (s : Service) (r : Request) (place : String × String) (bytes : ByteArray)
    (declared : Option String) : Prop where
  endpoint : s.endpoint? r.path = some .keepObject
  method : r.method = "POST"
  location : ∃ location, readQuery Asset.Location r = .ok location ∧
    Asset.Means s.bucket location.bucket location.key place
  file : ∃ boundary, boundary? r = some boundary ∧
    readFile s.maxBodyBytes boundary r = .ok (bytes, declared)

structure AsksFor (s : Service) (r : Request) (place : String × String) : Prop where
  endpoint : s.endpoint? r.path = some .readObject
  method : r.method = "GET"
  location : ∃ location, readQuery Asset.Location r = .ok location ∧
    Asset.Means s.bucket location.bucket location.key place

section
variable {answer : (c : Call) → σ → c.Answer × σ} {objects : σ → Asset.Store}
  {s : Service} {r : Request}

theorem Uploads.run_answer (h : Uploads s r place bytes declared)
    (hm : Asset.KeepsInMemory answer objects) (claims : Option Token.Claims) (z : σ) :
    ∃ z', (s.answer ⟨r, claims⟩ .keepObject).run answer z =
        (.ok (found (.str "File uploaded successfully")), z') ∧
      objects z' = (objects z).put place.1 place.2 ⟨bytes, Asset.typeOf bytes declared⟩ := by
  obtain ⟨location, hlocation, hmeans⟩ := h.location
  obtain ⟨boundary, hboundary, hfile⟩ := h.file
  obtain ⟨hkept, hobjects⟩ := Asset.run_keep hm hmeans bytes declared z
  refine ⟨_, ?_, hobjects⟩
  have hanswer : s.answer ⟨r, claims⟩ .keepObject =
      respond (Asset.keep s.bucket location.bucket location.key bytes declared)
        fun _ => found (.str "File uploaded successfully") := by
    show answerUpload s r = _
    simp only [answerUpload, hlocation, hboundary, hfile]
    rfl
  rw [hanswer]
  exact run_respond_of_ok (Prod.ext hkept rfl)

theorem AsksFor.run_answer (h : AsksFor s r place) (hm : Asset.KeepsInMemory answer objects)
    (claims : Option Token.Claims) (ho : (objects z).get? place.1 place.2 = some o) :
    ∃ z', (s.answer ⟨r, claims⟩ .readObject).run answer z = (.ok (objectResponse o), z') := by
  obtain ⟨location, hlocation, hmeans⟩ := h.location
  obtain ⟨hfound, -⟩ := Asset.run_fetch hm hmeans z
  rw [ho] at hfound
  have hanswer : s.answer ⟨r, claims⟩ .readObject =
      respond (Asset.fetch s.bucket location.bucket location.key) objectResponse := by
    show ofQuery _ _ _ _ = _
    simp only [ofQuery, hlocation]
    rfl
  rw [hanswer]
  exact ⟨_, run_respond_of_ok (Prod.ext hfound rfl)⟩

end

-- ---------------------------------------------------------------------------
-- What is told of an object
-- ---------------------------------------------------------------------------

theorem isSendable_of_readFile (h : readFile maxBytes boundary r = .ok (bytes, some said)) :
    MediaType.IsSendable said.toList := by
  unfold readFile at h
  dsimp only at h
  split at h
  · cases h
  · cases h
  · next part content hfound =>
    split at hfound
    · cases hfound
    · cases hpart : part.contentType with
      | none =>
        rw [hpart] at h
        cases h
      | some m =>
        rw [hpart] at h
        cases h
        exact Multipart.isSendable_of_find hfound hpart

theorem ne_of_isSendable {said : String} (h : MediaType.IsSendable said.toList) : said ≠ "" :=
  fun hempty => h.1 (String.toList_eq_nil_iff.mpr hempty)

theorem Uploads.isLegalValue_typeOf (h : Uploads s r place bytes declared) :
    isLegalValue (Text.Utf8.bytes (Asset.typeOf bytes declared)) = true := by
  obtain ⟨boundary, -, hfile⟩ := h.file
  rcases Asset.unsaid_or_said declared with hsaid | ⟨said, rfl, hother⟩
  · rw [Asset.typeOf_eq_sniff hsaid]
    exact Asset.isLegalValue_sniff bytes
  · have hsendable := isSendable_of_readFile hfile
    rw [Asset.typeOf_of_said (ne_of_isSendable hsendable) hother]
    exact MediaType.isLegalValue_bytes hsendable.2

theorem Uploads.declared_ne (h : Uploads s r place bytes declared) : declared ≠ some "" := by
  rintro rfl
  obtain ⟨boundary, -, hfile⟩ := h.file
  exact ne_of_isSendable (isSendable_of_readFile hfile) rfl

theorem values_protect {name : String} (h : name ∉ protectiveHeaders.map (·.1)) (res : Response) :
    (protect res).headers.values name = res.headers.values name := by
  simp only [protectiveHeaders, List.map_cons, List.map_nil, List.mem_cons, List.not_mem_nil,
    or_false, not_or] at h
  obtain ⟨hoptions, hframe, hdomains⟩ := h
  simp only [protect, protectiveHeaders, List.foldl_cons, List.foldl_nil]
  rw [Response.values_withText_of_ne hdomains, Response.values_withText_of_ne hframe,
    Response.values_withText_of_ne hoptions]

/-- What a client gets of an object whose type can be told. -/
theorem dress_objectResponse {o : Asset.Object}
    (hlegal : isLegalValue (Text.Utf8.bytes o.contentType) = true) (s : Service) (r : Request)
    (hmethod : r.method ≠ "HEAD") (id : String) :
    let res := s.dress r id (share s.origins r (protect (objectResponse o)))
    res.status = 200 ∧ res.body = .bytes o.bytes ∧
      res.headers.values "content-type" = [Text.Utf8.bytes o.contentType] := by
  have hres : objectResponse o = (Response.withText ⟨200, [], .bytes o.bytes⟩ "content-type"
      o.contentType).withText "cache-control" "public, max-age=3600" := if_pos hlegal
  refine ⟨?_, ?_, ?_⟩
  · rw [status_dress, status_share, status_protect, hres]
    rfl
  · rw [Service.dress, onlyHead, if_neg hmethod, body_withMethods]
    show (share s.origins r (protect (objectResponse o))).body = _
    rw [body_share, hres]
    rfl
  · rw [values_dress s r _ (by decide) (by decide), values_share (by decide),
      values_protect (by decide), hres, Response.values_withText_of_ne (by decide),
      Response.values_withText_self]

section
variable {answer : (c : Call) → σ → c.Answer × σ} {objects : σ → Asset.Store}
  {s : Service} {r r' : Request}

theorem Uploads.get?_of_handle (h : Uploads s r place bytes declared)
    (hm : Asset.KeepsInMemory answer objects)
    (hrun : (s.handle r ws).1.run answer x = (.ok res, y)) (hok : res.status = 200) :
    (objects y).get? place.1 place.2 = some ⟨bytes, Asset.typeOf bytes declared⟩ := by
  have hmethod : Endpoint.keepObject.accepts r.method = true := by
    rw [h.method]
    rfl
  obtain ⟨drawn, y₁, hid⟩ : ∃ drawn y₁, answer (.entropy idEntropy) x = (drawn, y₁) :=
    ⟨_, _, rfl⟩
  obtain ⟨now, z₁, hnow⟩ : ∃ now z₁, answer .now y₁ = (now, z₁) := ⟨_, _, rfl⟩
  have hlets := letsThrough_of_status h.endpoint rfl hmethod hid hnow hrun hok
  obtain ⟨claims, hhandle⟩ := run_handle_of_letsThrough h.endpoint rfl hmethod hlets hid hnow
  obtain ⟨z', hanswer, hobjects⟩ := h.run_answer hm (some claims) z₁
  obtain ⟨-, rfl⟩ := Prod.mk.inj (hrun.symm.trans (hhandle _ _ hanswer))
  rw [hm.other (.count _) _ nofun, hobjects, Asset.Store.get?_put, if_pos ⟨rfl, rfl⟩]

theorem run_handle_of_asksFor (hm : Asset.KeepsInMemory answer objects) (h : AsksFor s r place)
    (ho : (objects x).get? place.1 place.2 = some o)
    (hlegal : isLegalValue (Text.Utf8.bytes o.contentType) = true)
    (hid : answer (.entropy idEntropy) x = (drawn, y)) (hnow : answer .now y = (now, z))
    (hlets : s.LetsThrough r ws now) :
    ∃ res x', (s.handle r ws).1.run answer x = (.ok res, x') ∧ res.status = 200 ∧
      res.body = .bytes o.bytes ∧
      res.headers.values "content-type" = [Text.Utf8.bytes o.contentType] := by
  have hmethod : Endpoint.readObject.accepts r.method = true := by
    rw [h.method]
    rfl
  have hhead : r.method ≠ "HEAD" := by
    rw [h.method]
    decide
  -- Neither drawing an id nor reading the clock changes what is kept.
  have hkept : (objects z).get? place.1 place.2 = some o := by
    rw [hm.objects_of_answer hnow nofun, hm.objects_of_answer hid nofun, ho]
  obtain ⟨claims, hhandle⟩ := run_handle_of_letsThrough h.endpoint rfl hmethod hlets hid hnow
  obtain ⟨last, hanswer⟩ := h.run_answer hm (some claims) hkept
  exact ⟨_, _, hhandle _ _ hanswer, dress_objectResponse hlegal s r hhead (requestId r drawn)⟩

/-- After an upload that succeeded, whoever asks for the object gets the bytes of the upload, and
is told that they are of the type that the upload was said to be of, or if it was said to be of none
in particular, of the type that they are recognised to be of. That is their proper type unless the
upload misleads. -/
theorem uploads_are_served_as_declared_iff (hm : Asset.KeepsInMemory answer objects)
    (hupload : Uploads s r place bytes declared)
    (hrun : (s.handle r ws).1.run answer x = (.ok res, y)) (hok : res.status = 200)
    (hasks : AsksFor s r' place)
    (hsame : (objects x').get? place.1 place.2 = (objects y).get? place.1 place.2)
    (hid : answer (.entropy idEntropy) x' = (drawn, y')) (hnow : answer .now y' = (now, z'))
    (hlets : s.LetsThrough r' ws' now) :
    ∃ res' x'', (s.handle r' ws').1.run answer x' = (.ok res', x'') ∧ res'.status = 200 ∧
      res'.body = .bytes bytes ∧
      res'.headers.values "content-type" = [Text.Utf8.bytes (Asset.typeOf bytes declared)] ∧
      (res'.headers.values "content-type" = [Text.Utf8.bytes (Asset.properType bytes declared)] ↔
        ¬ Asset.Misleads bytes declared) := by
  have ho := hsame.trans (hupload.get?_of_handle hm hrun hok)
  obtain ⟨res', x'', hrun', hstatus, hbody, hvalues⟩ :=
    run_handle_of_asksFor hm hasks ho hupload.isLegalValue_typeOf hid hnow hlets
  refine ⟨res', x'', hrun', hstatus, hbody, hvalues, ?_⟩
  rw [hvalues, List.singleton_inj, bytes_inj, Asset.typeOf_eq_properType_iff hupload.declared_ne]

end

def picture : ByteArray := ⟨#[0x89, 0x50, 0x4E, 0x47, 0x0D, 0x0A, 0x1A, 0x0A]⟩

def keepingService : Service := { strictService with maxBodyBytes := 256 }

def pictureSaid (said : String) : Request where
  method := "POST"
  target := "/api/secure/helper/s3-upload?bucket=pictures&key=rust"
  headers := uploadOfAda.headers ++
    [("content-type", Text.Utf8.bytes "multipart/form-data; boundary=X")]
  body := ⟨(Text.Utf8.bytes ("--X\r\nContent-Disposition: form-data; name=\"file\"\r\n" ++
    "Content-Type: " ++ said ++ "\r\n\r\n") ++ picture.toList ++
      Text.Utf8.bytes "\r\n--X--").toArray⟩
  peer := none
  arrival := 0

def visitOfPicture : Request where
  method := "GET"
  target := "/api/secure/helper/s3-object?bucket=pictures&key=rust"
  headers := uploadOfAda.headers
  body := .empty
  peer := none
  arrival := 1

theorem exists_location (bucket key : Option String)
    (h : (readQuery Asset.Location r).map (fun l => (l.bucket, l.key)) = .ok (bucket, key))
    (hplace : Asset.resolve defaultBucket bucket key = .ok place) :
    ∃ location, readQuery Asset.Location r = .ok location ∧
      Asset.Means defaultBucket location.bucket location.key place := by
  obtain ⟨location, hlocation, heq⟩ := map_eq_ok_iff.mp h
  cases heq
  exact ⟨location, hlocation, Asset.resolve_eq_ok_iff.mp hplace⟩

theorem asksFor_visitOfPicture : AsksFor keepingService visitOfPicture ("pictures", "rust") where
  endpoint := by decide +kernel
  method := rfl
  location := exists_location (some "pictures") (some "rust") (by decide +kernel)
    (by decide +kernel)

theorem uploads_pictureSaid (said : String)
    (h : readFile 256 "X" (pictureSaid said) = .ok (picture, some said)) :
    Uploads keepingService (pictureSaid said) ("pictures", "rust") picture (some said) := by
  -- What is said of the picture stands in the body alone.
  have htarget : (pictureSaid said).target = (pictureSaid "").target := rfl
  have hheaders : (pictureSaid said).headers = (pictureSaid "").headers := rfl
  refine ⟨?_, rfl, ?_, "X", ?_, h⟩
  · rw [Request.path, Request.address, htarget]
    decide +kernel
  · refine exists_location (some "pictures") (some "rust") ?_ (by decide +kernel)
    rw [readQuery, Request.query, Request.address, htarget]
    decide +kernel
  · rw [boundary?, mediaType?, hheaders]
    decide +kernel

theorem letsThrough_of_ada {r : Request} (hbears : r.headers.get? "authorization" =
      uploadOfAda.headers.get? "authorization") (hpeer : client r = "anonymous")
    (hroom : ((keepingService.limits.step r.arrival ws["anonymous"]?).1.isAllowed = true)) :
    keepingService.LetsThrough r ws 0 := by
  obtain ⟨scheme, rest, hscheme, hvalue, htoken⟩ := bears_uploadOfAda
  refine ⟨?_, _, scheme, rest, hscheme, ?_, htoken⟩
  · rw [hpeer, Traffic.Limits.check_fst]
    exact hroom
  · rw [Headers.text?, hbears]
    exact hvalue

theorem letsThrough_pictureSaid (said : String) :
    keepingService.LetsThrough (pictureSaid said) ∅ 0 := by
  refine letsThrough_of_ada rfl rfl ?_
  rw [Std.HashMap.getElem?_empty]
  rfl

theorem letsThrough_visitOfPicture (said : String) :
    keepingService.LetsThrough visitOfPicture (keepingService.handle (pictureSaid said) ∅).2 0 := by
  refine letsThrough_of_ada rfl rfl ?_
  have hws : (keepingService.handle (pictureSaid said) ∅).2 =
      (keepingService.limits.check "anonymous" 0 ∅).2 :=
    (Service.receive_of_not_preflight (r := pictureSaid said) rfl ∅).1
  rw [hws, Traffic.Limits.getElem?_check_self, Std.HashMap.getElem?_empty]
  rfl

theorem exists_run_pictureSaid {said : String}
    (h : readFile 256 "X" (pictureSaid said) = .ok (picture, some said)) :
    ∃ res y, (keepingService.handle (pictureSaid said) ∅).1.run Asset.objectsAlone .empty =
      (.ok res, y) ∧ res.status = 200 := by
  have hupload := uploads_pictureSaid said h
  have hid : Asset.objectsAlone (.entropy idEntropy) .empty = (.empty, .empty) := rfl
  have hnow : Asset.objectsAlone .now .empty = (0, .empty) := rfl
  obtain ⟨claims, hhandle⟩ := run_handle_of_letsThrough hupload.endpoint rfl rfl
    (letsThrough_pictureSaid said) hid hnow
  obtain ⟨z', hanswer, -⟩ :=
    hupload.run_answer Asset.keepsInMemory_objectsAlone (some claims) .empty
  refine ⟨_, _, hhandle _ _ hanswer, ?_⟩
  rw [status_dress, status_share, status_protect]
  rfl

theorem picture_is_served_as_picture :
    ∃ res y res' y',
      (keepingService.handle (pictureSaid "application/octet-stream") ∅).1.run Asset.objectsAlone
        .empty = (.ok res, y) ∧ res.status = 200 ∧
      (keepingService.handle visitOfPicture
        (keepingService.handle (pictureSaid "application/octet-stream") ∅).2).1.run
          Asset.objectsAlone y = (.ok res', y') ∧ res'.status = 200 ∧
      res'.headers.values "content-type" = [Text.Utf8.bytes "image/png"] := by
  have hfile : readFile 256 "X" (pictureSaid "application/octet-stream") =
      .ok (picture, some "application/octet-stream") := by decide +kernel
  obtain ⟨res, y, hrun, hok⟩ := exists_run_pictureSaid hfile
  obtain ⟨res', y', hrun', hok', -, -, hiff⟩ := uploads_are_served_as_declared_iff
    Asset.keepsInMemory_objectsAlone (uploads_pictureSaid _ hfile) hrun hok asksFor_visitOfPicture
    rfl rfl rfl (letsThrough_visitOfPicture _)
  refine ⟨res, y, res', y', hrun, hok, hrun', hok', ?_⟩
  have hproper : Asset.properType picture (some "application/octet-stream") = "image/png" := by
    decide +kernel
  rw [hproper] at hiff
  refine hiff.mpr ?_
  rintro ⟨kind, said, -, hsaid, hother, -⟩
  exact hother (Option.some.inj hsaid).symm

theorem picture_is_served_as_text : Asset.recognize? picture = some "image/png" ∧
    ∃ res y res' y',
      (keepingService.handle (pictureSaid "text/plain") ∅).1.run Asset.objectsAlone .empty =
        (.ok res, y) ∧ res.status = 200 ∧
      (keepingService.handle visitOfPicture
        (keepingService.handle (pictureSaid "text/plain") ∅).2).1.run Asset.objectsAlone y =
          (.ok res', y') ∧ res'.status = 200 ∧ res'.body = .bytes picture ∧
      res'.headers.values "content-type" ≠ [Text.Utf8.bytes "image/png"] := by
  have hfile : readFile 256 "X" (pictureSaid "text/plain") = .ok (picture, some "text/plain") := by
    decide +kernel
  have hupload := uploads_pictureSaid _ hfile
  obtain ⟨res, y, hrun, hok⟩ := exists_run_pictureSaid hfile
  have ho := hupload.get?_of_handle Asset.keepsInMemory_objectsAlone hrun hok
  obtain ⟨res', y', hrun', hok', hbody, hvalues⟩ :=
    run_handle_of_asksFor Asset.keepsInMemory_objectsAlone asksFor_visitOfPicture ho
      hupload.isLegalValue_typeOf rfl rfl (letsThrough_visitOfPicture _)
  refine ⟨by decide +kernel, res, y, res', y', hrun, hok, hrun', hok', hbody, ?_⟩
  rw [hvalues]
  decide +kernel

end Api

end KnowledgeGraph
