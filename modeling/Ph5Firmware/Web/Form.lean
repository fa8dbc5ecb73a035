import Ph5Firmware.Web.Segments

/-!
# Parameters in a URL

What a browser sends of a form, a `GET` with the parameters in the query of the URL, is
what the server reads.

* `urlDecode_encode`: `urlDecode` undoes every spelling of a component.
* `getParamsFrom_query`: the loop of `_addGetParams` finds the parameters, in order.
* `Query.parseReqHead`: the request line; `Query.headers_read`: the header lines, one
  after the other.
* `Query.receive`: a request, cut in any way, is handed over with its parameters.
-/

namespace Ph5Firmware

open ByteText UrlEncoding

/-! ## Components -/

theorem hexByte_hexDigit (byte : UInt8) :
    hexByte (hexDigit (byte.toNat / 16)) (hexDigit (byte.toNat % 16)) = byte := by
  obtain ⟨hhigh, hlow⟩ := digits_lt byte
  rw [hexByte, hexValue_hexDigit hhigh, hexValue_hexDigit hlow]
  show UInt8.ofNat (16 * (byte.toNat / 16) + byte.toNat % 16) = byte
  rw [Nat.div_add_mod, UInt8.ofNat_toNat]

section Component

variable {plain : UInt8 → Bool}

theorem urlDecode_plain (hplain : ∀ byte, plain byte = true → unreserved byte = true)
    (byte : UInt8) (rest : List UInt8) (hbyte : plain byte = true) :
    urlDecode (byte :: rest) = byte :: urlDecode rest := by
  have hunreserved := hplain byte hbyte
  have hpercent : byte ≠ 37 := by
    rintro rfl
    exact absurd hunreserved (by decide)
  have hplus : byte ≠ 43 := by
    rintro rfl
    exact absurd hunreserved (by decide)
  rw [urlDecode.eq_def]
  exact (if_neg hpercent).trans (if_neg hplus)

/-- **Round trip** of a component. -/
theorem urlDecode_encode (hplain : ∀ byte, plain byte = true → unreserved byte = true)
    (text : List UInt8) : urlDecode (encode plain text) = text := by
  apply decode_encode rfl (urlDecode_plain hplain)
  intro byte rest
  show urlDecode (37 :: hexDigit (byte.toNat / 16) :: hexDigit (byte.toNat % 16) :: rest) = _
  rw [urlDecode, if_pos rfl, hexByte_hexDigit]

end Component

/-! ## The query -/

/-- A parameter as the query of a URL gives it. -/
def getParam (param : List UInt8 × List UInt8) : AsyncWebParameter :=
  { name := param.1, value := param.2, isForm := false, isFile := false, size := 0 }

section Query

variable {plain : UInt8 → Bool} (hplain : ∀ byte, plain byte = true → unreserved byte = true)
include hplain

theorem not_mem_pair {separator : UInt8} (hseparator : unreserved separator = false)
    (hpercent : separator ≠ 37) (hequal : separator ≠ 61) (param : List UInt8 × List UInt8) :
    separator ∉ pair plain param := by
  rw [pair, List.mem_append, List.mem_cons]
  rintro (hname | heq | hvalue)
  · exact not_mem_encode hplain hseparator hpercent _ hname
  · exact hequal heq
  · exact not_mem_encode hplain hseparator hpercent _ hvalue

/-- Where `_addGetParams` sees the end of a parameter: at its `&`, or at the end. -/
theorem indexOf_end (front tail : List UInt8) (param : List UInt8 × List UInt8)
    (htail : tail = [] ∨ ∃ rest, tail = 38 :: rest) :
    let text := front ++ (pair plain param ++ tail)
    (if indexOf text 38 front.length < 0 then (text.length : ℤ) else indexOf text 38 front.length) =
      (front.length + (pair plain param).length : ℕ) := by
  have hnul : 0 ∉ pair plain param :=
    not_mem_pair hplain (by decide) (by decide) (by decide) param
  have hand : 38 ∉ pair plain param :=
    not_mem_pair hplain (by decide) (by decide) (by decide) param
  dsimp only
  rcases htail with rfl | ⟨rest, rfl⟩
  · rw [List.append_nil, indexOf_of_not_mem front hand, if_pos (by decide), List.length_append]
  · rw [indexOf_append front rest (by decide) hand hnul, if_neg (by omega)]

/-- One turn of `_addGetParams`, at a parameter that ends with the text or with `&`. -/
theorem getParamsFrom_pair (front tail : List UInt8) (param : List UInt8 × List UInt8)
    (htail : tail = [] ∨ ∃ rest, tail = 38 :: rest)
    (hsize : (front ++ (pair plain param ++ tail)).length < 4294967295) (turns : ℕ) :
    getParamsFrom (front ++ (pair plain param ++ tail)) (turns + 1) front.length =
      getParam param :: getParamsFrom (front ++ (pair plain param ++ tail)) turns
        ((front ++ pair plain param).length + 1) := by
  obtain ⟨name, value⟩ := param
  -- no separator stands in an encoded name or value, so both searches stop where they should
  have hstop := indexOf_end hplain front tail (name, value) htail
  have hname : 61 ∉ encode plain name := not_mem_encode hplain (by decide) (by decide) name
  have hnul : 0 ∉ encode plain name := not_mem_encode hplain (by decide) (by decide) name
  have hpair : pair plain (name, value) = encode plain name ++ 61 :: encode plain value := rfl
  have hlength : (pair plain (name, value)).length =
      (encode plain name).length + ((encode plain value).length + 1) := by
    rw [hpair, List.length_append, List.length_cons]
  have htext : front ++ (pair plain (name, value) ++ tail) =
      front ++ (encode plain name ++ 61 :: (encode plain value ++ tail)) := by
    rw [hpair, List.append_assoc, List.cons_append]
  have hequal : indexOf (front ++ (pair plain (name, value) ++ tail)) 61 front.length =
      (front.length + (encode plain name).length : ℕ) := by
    rw [htext]
    exact indexOf_append front _ (by decide) hname hnul
  have hstart : front.length < (front ++ (pair plain (name, value) ++ tail)).length := by
    rw [List.length_append, List.length_append]
    omega
  have hbound : front.length + (pair plain (name, value)).length < 4294967295 := by
    rw [List.length_append, List.length_append] at hsize
    omega
  have hcutName : substring (front ++ (pair plain (name, value) ++ tail)) front.length
      (front.length + (encode plain name).length) = encode plain name := by
    rw [htext]
    exact substring_append front _ _
  have hcutValue : substring (front ++ (pair plain (name, value) ++ tail))
      (front.length + (encode plain name).length + 1)
      (front.length + (pair plain (name, value)).length) = encode plain value := by
    have hfront : (front ++ (encode plain name ++ [61])).length =
        front.length + (encode plain name).length + 1 := by
      simp [Nat.add_assoc]
    have hback : (front ++ (encode plain name ++ [61])).length + (encode plain value).length =
        front.length + (pair plain (name, value)).length := by
      rw [hfront, hlength]
      omega
    rw [htext, ← hback, ← hfront,
      show front ++ (encode plain name ++ 61 :: (encode plain value ++ tail)) =
        (front ++ (encode plain name ++ [61])) ++ (encode plain value ++ tail) by simp]
    exact substring_append _ tail _
  dsimp only at hstop
  rw [getParamsFrom, if_pos hstart]
  simp only [hstop, hequal]
  have hbefore : ¬ (((front.length + (encode plain name).length : ℕ) : ℤ) < 0 ∨
      ((front.length + (pair plain (name, value)).length : ℕ) : ℤ) <
        (front.length + (encode plain name).length : ℕ)) := by omega
  rw [if_neg hbefore, unsigned_natCast (by omega), unsigned_natCast (by omega),
    unsigned_succ (by omega), unsigned_succ (by omega), hcutName, hcutValue,
    urlDecode_encode hplain]
  have hvalue : urlDecode
      (if ((front.length + (encode plain name).length : ℕ) : ℤ) + 1 <
          (front.length + (pair plain (name, value)).length : ℕ) then encode plain value
        else []) = value := by
    by_cases hempty : value = []
    · rw [hempty, encode_nil, ite_self]
      rfl
    · have hsome := List.length_pos_iff.mpr (encode_ne_nil plain hempty)
      rw [if_pos (by omega), urlDecode_encode hplain]
  rw [hvalue, List.length_append]
  rfl

omit hplain in
theorem getParamsFrom_end {text : List UInt8} {start : ℕ} (hstart : text.length ≤ start)
    (turns : ℕ) : getParamsFrom text turns start = [] := by
  cases turns with
  | zero => rfl
  | succ turns => rw [getParamsFrom, if_neg (by omega)]

/-- **Round trip** of a query. -/
theorem getParamsFrom_query (params : List (List UInt8 × List UInt8)) (front : List UInt8)
    {turns : ℕ} (hturns : (query plain params).length ≤ turns)
    (hsize : (front ++ query plain params).length < 4294967295) :
    getParamsFrom (front ++ query plain params) turns front.length = params.map getParam := by
  induction params generalizing front turns with
  | nil =>
      apply getParamsFrom_end
      rw [query, List.append_nil]
  | cons param rest ih =>
      have hequals : 0 < (pair plain param).length := by
        rw [pair, List.length_append, List.length_cons]
        omega
      by_cases hrest : rest = []
      · -- the last parameter has no separator behind it
        have hquery : query plain (param :: rest) = pair plain param ++ [] := by
          rw [hrest, query, List.append_nil]
        rw [hquery] at hturns hsize ⊢
        obtain ⟨turns, rfl⟩ := Nat.exists_eq_succ_of_ne_zero (show turns ≠ 0 by
          rw [List.append_nil] at hturns
          omega)
        rw [getParamsFrom_pair hplain front [] param (.inl rfl) hsize,
          getParamsFrom_end (by rw [List.append_nil]; omega), hrest]
        rfl
      · have hquery := query_cons plain param hrest
        rw [hquery] at hturns hsize ⊢
        rw [List.length_append, List.length_cons] at hturns
        obtain ⟨turns, rfl⟩ := Nat.exists_eq_succ_of_ne_zero (show turns ≠ 0 by omega)
        have hfront : front ++ (pair plain param ++ 38 :: query plain rest) =
            (front ++ pair plain param ++ [38]) ++ query plain rest := by simp
        have hstart : (front ++ pair plain param).length + 1 =
            (front ++ pair plain param ++ [38]).length := by simp [Nat.add_assoc]
        rw [getParamsFrom_pair hplain front _ param (.inr ⟨_, rfl⟩) hsize, hstart]
        rw [hfront] at hsize ⊢
        rw [ih _ (by omega) hsize]
        rfl

theorem not_mem_query {separator : UInt8} (hseparator : unreserved separator = false)
    (hpercent : separator ≠ 37) (hequal : separator ≠ 61) (hand : separator ≠ 38)
    (params : List (List UInt8 × List UInt8)) : separator ∉ query plain params := by
  induction params with
  | nil => exact List.not_mem_nil
  | cons param rest ih =>
      have hparam := not_mem_pair hplain hseparator hpercent hequal param
      by_cases hrest : rest = []
      · rw [hrest]
        exact hparam
      · rw [query_cons plain param hrest, List.mem_append, List.mem_cons]
        rintro (hmem | heq | hmem)
        · exact hparam hmem
        · exact hand heq
        · exact ih hmem

end Query

/-! ## A request with a query -/

/-- The name a header line gives. -/
def headerName (line : List UInt8) : List UInt8 :=
  substring (trim line) 0 (unsigned (indexOf (trim line) 58 0))

/-- A header line, without its line feed, that announces no body. -/
structure HeaderLine (line : List UInt8) : Prop where
  nulFree : 0 ∉ line
  oneLine : 10 ∉ line
  notBlank : trim line ≠ []
  noBody : equalsIgnoreCase (headerName line) (ofString "Content-Length") = false

/-- A `GET` of a path with parameters, spelled as `plain` says. -/
structure Query where
  path : List UInt8
  params : List (List UInt8 × List UInt8)
  plain : UInt8 → Bool
  headers : List (List UInt8)
  plain_unreserved : ∀ byte, plain byte = true → unreserved byte = true
  path_ne_nil : path ≠ []
  path_proper : ∀ byte ∈ path, byte ≠ 0 ∧ byte ≠ 10 ∧ byte ≠ 32 ∧ byte ≠ 63
  headers_proper : ∀ line ∈ headers, HeaderLine line
  /-- The indices of a text have 32 bits. -/
  small : path.length + (query plain params).length < 4294967000

namespace Query

variable (form : Query)

def target : List UInt8 :=
  form.path ++ 63 :: query form.plain form.params

def requestLine : List UInt8 :=
  ofString "GET " ++ (form.target ++ ofString " HTTP/1.1")

def bytes : List UInt8 :=
  form.requestLine ++ 13 :: 10 ::
    (form.headers.flatMap (fun line => line ++ [10]) ++ [13, 10])

theorem not_mem_target {separator : UInt8} (hpath : separator ∉ form.path)
    (hmark : separator ≠ 63) (hseparator : unreserved separator = false)
    (hpercent : separator ≠ 37) (hequal : separator ≠ 61) (hand : separator ≠ 38) :
    separator ∉ form.target := by
  rw [target, List.mem_append, List.mem_cons]
  rintro (hmem | heq | hmem)
  · exact hpath hmem
  · exact hmark heq
  · exact not_mem_query form.plain_unreserved hseparator hpercent hequal hand _ hmem

theorem nul_target : 0 ∉ form.target :=
  form.not_mem_target (fun hmem => (form.path_proper 0 hmem).1 rfl) (by decide) (by decide)
    (by decide) (by decide) (by decide)

theorem lineFeed_target : 10 ∉ form.target :=
  form.not_mem_target (fun hmem => (form.path_proper 10 hmem).2.1 rfl) (by decide) (by decide)
    (by decide) (by decide) (by decide)

theorem blank_target : 32 ∉ form.target :=
  form.not_mem_target (fun hmem => (form.path_proper 32 hmem).2.2.1 rfl) (by decide) (by decide)
    (by decide) (by decide) (by decide)

theorem length_target : form.target.length < 4294967100 := by
  have hsmall := form.small
  rw [target, List.length_append, List.length_cons]
  omega

/-! ## The request line -/

section Head

variable {request : AsyncWebServerRequest}

/-- The two blanks of a request line, and what stands around them. -/
theorem requestLine_cut :
    indexOf form.requestLine 32 0 = (3 : ℕ) ∧
      indexOf form.requestLine 32 4 = (4 + form.target.length : ℕ) ∧
      substring form.requestLine 0 3 = ofString "GET" ∧
      substring form.requestLine 4 (4 + form.target.length) = form.target ∧
      substring form.requestLine (4 + form.target.length + 1) form.requestLine.length =
        ofString "HTTP/1.1" := by
  have hmethod : form.requestLine =
      [] ++ (ofString "GET" ++ 32 :: (form.target ++ ofString " HTTP/1.1")) := by
    rw [requestLine, show ofString "GET " = ofString "GET" ++ [32] by decide]
    simp
  have htarget : form.requestLine =
      ofString "GET " ++ (form.target ++ 32 :: ofString "HTTP/1.1") := by
    rw [requestLine, show ofString " HTTP/1.1" = 32 :: ofString "HTTP/1.1" by decide]
  have hversion : form.requestLine =
      (ofString "GET " ++ (form.target ++ [32])) ++ ofString "HTTP/1.1" := by
    rw [htarget]
    simp
  have hfront : (ofString "GET " ++ (form.target ++ [32])).length =
      4 + form.target.length + 1 := by
    rw [List.length_append, List.length_append, show (ofString "GET ").length = 4 by decide,
      List.length_singleton, Nat.add_assoc]
  refine ⟨?_, ?_, ?_, ?_, ?_⟩
  · rw [hmethod]
    exact indexOf_append [] _ (by decide) (by decide) (by decide)
  · rw [htarget]
    exact indexOf_append (ofString "GET ") _ (by decide) form.blank_target form.nul_target
  · rw [hmethod]
    exact substring_append [] _ _
  · rw [htarget]
    exact substring_append (ofString "GET ") _ _
  · rw [← hfront, hversion]
    exact substring_of_le _ _ (Nat.le_refl _)

theorem target_cut :
    indexOf form.target 63 0 = (form.path.length : ℕ) ∧
      substring form.target 0 form.path.length = form.path ∧
      substring form.target (form.path.length + 1) form.target.length =
        query form.plain form.params := by
  have hmark : 63 ∉ form.path := fun hmem => (form.path_proper 63 hmem).2.2.2 rfl
  have hnul : 0 ∉ form.path := fun hmem => (form.path_proper 0 hmem).1 rfl
  have hquery : form.target = (form.path ++ [63]) ++ query form.plain form.params := by
    rw [target]
    simp
  have hfront : (form.path ++ [63]).length = form.path.length + 1 := by simp
  refine ⟨?_, ?_, ?_⟩
  · have hfound := indexOf_append [] (query form.plain form.params)
      (show (63 : UInt8) ≠ 0 by decide) hmark hnul
    rwa [List.length_nil, Nat.zero_add] at hfound
  · have hcut := substring_append [] (63 :: query form.plain form.params) form.path
    rwa [List.length_nil, Nat.zero_add] at hcut
  · rw [← hfront, hquery]
    exact substring_of_le _ _ (Nat.le_refl _)

/-- **The request line** gives the method, the path and the parameters. -/
theorem parseReqHead (htemp : request.temp = form.requestLine) :
    request.parseReqHead =
      { request with
        method := httpGet
        url := urlDecode form.path
        params := request.params ++ form.params.map getParam
        version := 1
        temp := [] } := by
  obtain ⟨hfirst, hsecond, hmethod, htarget, hversion⟩ := form.requestLine_cut
  obtain ⟨hmark, hpath, hquery⟩ := form.target_cut
  have hlength := form.length_target
  have hshort : form.path.length < 4294967100 := by
    have hsmall := form.small
    omega
  have hsome : (0 : ℤ) < (form.path.length : ℕ) := by
    have hpositive := List.length_pos_iff.mpr form.path_ne_nil
    omega
  have hparams : getParamsFrom (query form.plain form.params)
      (query form.plain form.params).length 0 = form.params.map getParam := by
    have hsmall := form.small
    exact getParamsFrom_query form.plain_unreserved form.params [] (Nat.le_refl _)
      (by rw [List.nil_append]; omega)
  have hget : ∀ method, AsyncWebServerRequest.methodOf (ofString "GET") method = httpGet := by
    intro method
    exact if_pos (by decide)
  have hnumber : startsWith (ofString "HTTP/1.1") "HTTP/1.0" = false := by decide
  have hfour : (ofString "GET").length + 1 = 4 := by decide
  unfold AsyncWebServerRequest.parseReqHead
  simp only [htemp, hfirst, unsigned_natCast (show 3 < 4294967296 by decide),
    unsigned_succ (show 3 < 4294967295 by decide), hmethod, hfour, hsecond,
    unsigned_natCast (show 4 + form.target.length < 4294967296 by omega),
    unsigned_succ (show 4 + form.target.length < 4294967295 by omega), htarget, hversion, hmark,
    if_pos hsome, unsigned_natCast (show form.path.length < 4294967296 by omega),
    unsigned_succ (show form.path.length < 4294967295 by omega), hpath, hquery, hget, hnumber,
    AsyncWebServerRequest.addGetParams, hparams, Bool.false_eq_true, if_false]

end Head

end Query

/-! ## The header lines -/

namespace AsyncWebServerRequest

/-- What the header lines and the choice of a handler leave alone. -/
structure SameHead (before after : AsyncWebServerRequest) : Prop where
  parseState : after.parseState = before.parseState
  method : after.method = before.method
  url : after.url = before.url
  params : after.params = before.params
  contentLength : after.contentLength = before.contentLength
  parsedLength : after.parsedLength = before.parsedLength

theorem SameHead.refl (request : AsyncWebServerRequest) : SameHead request request :=
  ⟨rfl, rfl, rfl, rfl, rfl, rfl⟩

theorem SameHead.trans {first second third : AsyncWebServerRequest}
    (hfirst : SameHead first second) (hsecond : SameHead second third) :
    SameHead first third where
  parseState := hsecond.parseState.trans hfirst.parseState
  method := hsecond.method.trans hfirst.method
  url := hsecond.url.trans hfirst.url
  params := hsecond.params.trans hfirst.params
  contentLength := hsecond.contentLength.trans hfirst.contentLength
  parsedLength := hsecond.parsedLength.trans hfirst.parsedLength

variable (request : AsyncWebServerRequest)

theorem applyHeader_same {name : List UInt8}
    (hname : equalsIgnoreCase name (ofString "Content-Length") = false) (value : List UInt8) :
    SameHead request (request.applyHeader name value) := by
  unfold applyHeader
  simp only [hname, Bool.false_eq_true, if_false]
  split_ifs <;> first | exact .refl request | exact ⟨rfl, rfl, rfl, rfl, rfl, rfl⟩

theorem parseReqHeader_same
    (hname : equalsIgnoreCase (substring request.temp 0 (unsigned (indexOf request.temp 58 0)))
      (ofString "Content-Length") = false) :
    SameHead request request.parseReqHeader ∧ request.parseReqHeader.temp = [] := by
  unfold parseReqHeader
  dsimp only
  split_ifs
  · have hsame := applyHeader_same request hname
      (substring request.temp (unsigned (indexOf request.temp 58 0 + 2)) request.temp.length)
    exact ⟨⟨hsame.parseState, hsame.method, hsame.url, hsame.params, hsame.contentLength,
      hsame.parsedLength⟩, rfl⟩
  · exact ⟨⟨rfl, rfl, rfl, rfl, rfl, rfl⟩, rfl⟩

theorem addInterestingHeader_same (name : List UInt8) :
    SameHead request (request.addInterestingHeader name) := by
  unfold addInterestingHeader
  split_ifs
  · exact .refl request
  · exact ⟨rfl, rfl, rfl, rfl, rfl, rfl⟩

theorem removeNotInterestingHeaders_same :
    SameHead request request.removeNotInterestingHeaders := by
  unfold removeNotInterestingHeaders
  split_ifs
  · exact .refl request
  · exact ⟨rfl, rfl, rfl, rfl, rfl, rfl⟩

end AsyncWebServerRequest

namespace AsyncWebServer

open AsyncWebServerRequest

variable {server : AsyncWebServer} {request : AsyncWebServerRequest}

theorem canHandle_same {handler : AsyncWebHandler} {handled : AsyncWebServerRequest}
    (hhandled : handler.canHandle request = some handled) : SameHead request handled := by
  cases handler with
  | callback uri method =>
      obtain ⟨-, hsome⟩ := Option.ite_none_right_eq_some.mp hhandled
      obtain rfl := Option.some.inj hsome
      exact addInterestingHeader_same _ _
  | webSocket url =>
      obtain ⟨-, hsome⟩ := Option.ite_none_right_eq_some.mp hhandled
      obtain rfl := Option.some.inj hsome
      clear hhandled hsome
      induction AsyncWebHandler.webSocketHeaders generalizing request with
      | nil => exact .refl request
      | cons name rest ih => exact (addInterestingHeader_same _ _).trans ih
  | catchAll onRequest => exact absurd hhandled (by simp [AsyncWebHandler.canHandle])

theorem attachHandler_same (server : AsyncWebServer) (request : AsyncWebServerRequest) :
    SameHead request (server.attachHandler request) := by
  have hwithHandler : ∀ before after : AsyncWebServerRequest, ∀ handler,
      SameHead before after → SameHead before { after with handler := handler } :=
    fun _ _ _ hsame => ⟨hsame.parseState, hsame.method, hsame.url, hsame.params,
      hsame.contentLength, hsame.parsedLength⟩
  unfold attachHandler
  induction server.handlers with
  | nil => exact hwithHandler _ _ _ (addInterestingHeader_same _ _)
  | cons handler rest ih =>
      unfold attachHandler.go
      cases hhandled : handler.canHandle request with
      | none => exact ih
      | some handled => exact hwithHandler _ _ _ (canHandle_same hhandled)

/-- The blank line of a request without a body. -/
theorem endOfHeaders_same (server : AsyncWebServer) (hbody : request.contentLength = 0) :
    (server.endOfHeaders request).parseState = .reqEnd ∧
      SameHead { request with parseState := .reqEnd } (server.endOfHeaders request) := by
  have hsame := (attachHandler_same server request).trans
    (removeNotInterestingHeaders_same _)
  have hnone : ¬ (server.attachHandler request).removeNotInterestingHeaders.contentLength ≠ 0 := by
    rw [hsame.contentLength, hbody]
    exact not_not.mpr rfl
  unfold endOfHeaders
  rw [if_neg hnone]
  exact ⟨rfl, ⟨rfl, hsame.method, hsame.url, hsame.params, hsame.contentLength,
    hsame.parsedLength⟩⟩

/-- **Header lines**, one after the other. -/
theorem headers_read (server : AsyncWebServer) (request : AsyncWebServerRequest)
    {headers : List (List UInt8)} (hheaders : ∀ line ∈ headers, HeaderLine line)
    (hstate : request.parseState = .reqHeaders) (htemp : request.temp = []) (tail : List UInt8) :
    ∃ read, server.onData request (headers.flatMap (fun line => line ++ [10]) ++ tail) =
        server.onData read tail ∧
      SameHead request read ∧ read.temp = [] := by
  induction headers generalizing request with
  | nil => exact ⟨request, rfl, .refl request, htemp⟩
  | cons line rest ih =>
      have hline := hheaders line (List.mem_cons_self ..)
      have hhead : request.beforeBody = true := by
        unfold beforeBody
        rw [hstate]
        decide
      have hcomplete : (request.completeLine line).temp = trim line := by
        rw [completeLine, htemp, Text.upTo_eq_self hline.nulFree, List.nil_append]
      have hsameLine : SameHead request (request.completeLine line) :=
        ⟨rfl, rfl, rfl, rfl, rfl, rfl⟩
      have hparse : server.parseLine (request.completeLine line) =
          (request.completeLine line).parseReqHeader := by
        unfold parseLine
        rw [hsameLine.parseState, hstate]
        dsimp only
        rw [hcomplete, if_neg hline.notBlank]
      obtain ⟨hsame, hempty⟩ := parseReqHeader_same (request.completeLine line) (by
        rw [hcomplete]
        exact hline.noBody)
      have hnext := hsameLine.trans hsame
      obtain ⟨read, hread, hrest, hleft⟩ := ih _
        (fun line hmem => hheaders line (List.mem_cons_of_mem _ hmem))
        (hnext.parseState.trans hstate) hempty
      refine ⟨read, ?_, hnext.trans hrest, hleft⟩
      have hsplit : (line :: rest).flatMap (fun line => line ++ [10]) ++ tail =
          line ++ 10 :: (rest.flatMap (fun line => line ++ [10]) ++ tail) := by simp
      rw [hsplit, onData_line hhead hline.oneLine, hparse, hread]

end AsyncWebServer

/-! ## The whole request -/

namespace Query

open AsyncWebServerRequest AsyncWebServer

variable (form : Query)

theorem trim_requestLine : trim (form.requestLine ++ [13]) = form.requestLine := by
  apply trim_append
  · intro byte hbyte
    obtain rfl := List.mem_singleton.mp hbyte
    decide
  · intro byte hbyte
    have hhead : form.requestLine.head? = some 71 := rfl
    rw [hhead, Option.mem_some_iff] at hbyte
    rw [← hbyte]
    decide
  · intro byte hbyte
    have hlast : form.requestLine.getLast? = some 49 := by
      rw [requestLine, List.getLast?_append, List.getLast?_append,
        show (ofString " HTTP/1.1").getLast? = some 49 by decide]
      rfl
    rw [hlast, Option.mem_some_iff] at hbyte
    rw [← hbyte]
    decide

theorem nul_requestLine : 0 ∉ form.requestLine := by
  rw [requestLine, List.mem_append, List.mem_append]
  rintro (hmem | hmem | hmem)
  · exact absurd hmem (by decide)
  · exact form.nul_target hmem
  · exact absurd hmem (by decide)

theorem lineFeed_requestLine : 10 ∉ form.requestLine := by
  rw [requestLine, List.mem_append, List.mem_append]
  rintro (hmem | hmem | hmem)
  · exact absurd hmem (by decide)
  · exact form.lineFeed_target hmem
  · exact absurd hmem (by decide)

theorem nul_bytes : 0 ∉ form.bytes := by
  have hheaders : 0 ∉ form.headers.flatMap (fun line => line ++ [10]) := by
    intro hmem
    obtain ⟨line, hline, hnul⟩ := List.mem_flatMap.mp hmem
    rcases List.mem_append.mp hnul with hnul | hnul
    · exact (form.headers_proper line hline).nulFree hnul
    · exact absurd hnul (by decide)
  have hrequestLine := form.nul_requestLine
  simp [bytes, hheaders, hrequestLine]

/-- The request after its first line. -/
def afterHead : AsyncWebServerRequest :=
  { AsyncWebServerRequest.new with
    method := httpGet
    url := urlDecode form.path
    params := form.params.map getParam
    version := 1
    parseState := .reqHeaders }

theorem requestLine_read (server : AsyncWebServer) (tail : List UInt8) :
    server.onData .new (form.requestLine ++ 13 :: 10 :: tail) =
      server.onData form.afterHead tail := by
  have hline : 10 ∉ form.requestLine ++ [13] := by
    have hrequestLine := form.lineFeed_requestLine
    simp [hrequestLine]
  have hnul : 0 ∉ form.requestLine ++ [13] := by
    have hrequestLine := form.nul_requestLine
    simp [hrequestLine]
  have hsplit : form.requestLine ++ 13 :: 10 :: tail =
      (form.requestLine ++ [13]) ++ 10 :: tail := by simp
  have htemp : (AsyncWebServerRequest.new.completeLine (form.requestLine ++ [13])).temp =
      form.requestLine := by
    rw [completeLine, Text.upTo_eq_self hnul]
    exact form.trim_requestLine
  have hsome : (AsyncWebServerRequest.new.completeLine (form.requestLine ++ [13])).temp ≠ [] := by
    rw [htemp]
    exact List.cons_ne_nil _ _
  have hparse : server.parseLine
      (AsyncWebServerRequest.new.completeLine (form.requestLine ++ [13])) = form.afterHead := by
    unfold parseLine
    show (if (AsyncWebServerRequest.new.completeLine (form.requestLine ++ [13])).temp = [] then _
      else _) = _
    rw [if_neg hsome, form.parseReqHead htemp]
    rfl
  rw [hsplit, onData_line (by decide) hline, hparse]

theorem bytes_read (server : AsyncWebServer) :
    (server.onData .new form.bytes).parseState = .reqEnd ∧
      SameHead { form.afterHead with parseState := .reqEnd } (server.onData .new form.bytes) := by
  obtain ⟨read, hread, hsame, htemp⟩ := headers_read server form.afterHead
    form.headers_proper rfl rfl [13, 10]
  have hhead : read.beforeBody = true := by
    unfold beforeBody
    rw [hsame.parseState]
    rfl
  have hcomplete : (read.completeLine [13]).temp = [] := by
    rw [completeLine, htemp]
    show trim [13] = []
    decide
  have hparse : server.parseLine (read.completeLine [13]) =
      server.endOfHeaders (read.completeLine [13]) := by
    unfold parseLine
    rw [show (read.completeLine [13]).parseState = .reqHeaders from hsame.parseState]
    exact if_pos hcomplete
  have hbody : (read.completeLine [13]).contentLength = 0 := hsame.contentLength
  obtain ⟨hend, hlast⟩ := endOfHeaders_same server hbody
  have hblank : [13, 10] = [13] ++ (10 : UInt8) :: [] := rfl
  rw [bytes, form.requestLine_read, hread, hblank, onData_line hhead (by decide), onData_nil,
    hparse]
  exact ⟨hend, ⟨hend, hlast.method.trans hsame.method, hlast.url.trans hsame.url,
    hlast.params.trans hsame.params, hlast.contentLength.trans hsame.contentLength,
    hlast.parsedLength.trans hsame.parsedLength⟩⟩

/-- **A request is handed over with its parameters**, however TCP cuts it. -/
theorem receive (server : AsyncWebServer) (segments : List (List UInt8))
    (hcut : segments.flatten = form.bytes) :
    (server.receive .new segments).parseState = .reqEnd ∧
      (server.receive .new segments).method = httpGet ∧
      (server.receive .new segments).url = urlDecode form.path ∧
      (server.receive .new segments).params = form.params.map getParam := by
  obtain ⟨hend, hsame⟩ := form.bytes_read server
  have hsettled : Settled (server.onData .new segments.flatten) := by
    have hnone : (server.onData .new segments.flatten).parsedLength = 0 := by
      rw [hcut]
      exact hsame.parsedLength
    exact ⟨fun hsome => absurd hnone hsome, fun hsome => absurd hnone hsome,
      hnone ▸ Nat.zero_le _⟩
  rw [receive_segments server .new segments (hcut ▸ form.nul_bytes) hsettled, hcut]
  exact ⟨hend, hsame.method, hsame.url, hsame.params⟩

end Query

end Ph5Firmware
