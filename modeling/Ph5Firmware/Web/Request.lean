import Ph5Firmware.Library.ByteText
import Ph5Firmware.Library.UrlEncoding

/-!
# An HTTP request and its lines

`AsyncWebServerRequest` collects a request while its bytes arrive.  This module has the
state it keeps and what it reads out of one line or one byte of a body:

* `parseReqHead` splits the first line and puts the parameters of its query into
  `params`;
* `parseReqHeader` reads a header line;
* `parsePlainPostChar` reads a body of parameters;
* `parseMultipartPostByte` reads a body of parts, each behind a line with the boundary.
-/

namespace Ph5Firmware

open ByteText

inductive ParseState where
  | reqStart
  | reqHeaders
  | reqBody
  | reqEnd
  | reqFail
  deriving DecidableEq

/-- `RequestedConnectionType`. -/
inductive RequestedConnection where
  | http
  | ws
  | event
  deriving DecidableEq

def httpGet : UInt8 := 0b00000001
def httpPost : UInt8 := 0b00000010
def httpDelete : UInt8 := 0b00000100
def httpPut : UInt8 := 0b00001000
def httpPatch : UInt8 := 0b00010000
def httpHead : UInt8 := 0b00100000
def httpOptions : UInt8 := 0b01000000
def httpAny : UInt8 := 0b01111111

structure AsyncWebHeader where
  name : List UInt8
  value : List UInt8
  deriving DecidableEq

structure AsyncWebParameter where
  name : List UInt8
  value : List UInt8
  isForm : Bool
  isFile : Bool
  size : ℕ
  deriving DecidableEq

/-- `_multiParseState`. -/
inductive MultiParseState where
  | expectBoundary
  | parseHeaders
  | waitForReturn1
  | expectFeed1
  | expectDash1
  | expectDash2
  | boundaryOrData
  | dash3OrReturn2
  | expectFeed2
  | parsingFinished
  | parseError
  deriving DecidableEq

/-- The part of a multipart body that is being read. -/
structure MultipartItem where
  multiParseState : MultiParseState
  boundaryPosition : UInt8
  itemSize : ℕ
  itemName : List UInt8
  itemFilename : List UInt8
  itemType : List UInt8
  itemValue : List UInt8
  itemIsFile : Bool
  deriving DecidableEq

/-- `AsyncWebHandler`, as far as the firmware has any.  A `callback` has an
`_onRequest`; the catch-all handler has one if `onNotFound` was called. -/
inductive AsyncWebHandler where
  | callback (uri : List UInt8) (method : UInt8)
  | webSocket (url : List UInt8)
  | catchAll (onRequest : Bool)
  deriving DecidableEq

structure AsyncWebServerRequest where
  temp : List UInt8
  parseState : ParseState
  version : ℕ
  method : UInt8
  url : List UInt8
  host : List UInt8
  contentType : List UInt8
  boundary : List UInt8
  authorization : List UInt8
  reqconntype : RequestedConnection
  isDigest : Bool
  isMultipart : Bool
  isPlainPost : Bool
  expectingContinue : Bool
  contentLength : ℕ
  parsedLength : ℕ
  headers : List AsyncWebHeader
  params : List AsyncWebParameter
  interestingHeaders : List (List UInt8)
  handler : Option AsyncWebHandler
  item : MultipartItem
  deriving DecidableEq

/-- `urlDecode`'s `strtol` of `0x` and two characters. -/
def hexByte (high low : UInt8) : UInt8 :=
  match UrlEncoding.hexValue high, UrlEncoding.hexValue low with
  | some first, some second => UInt8.ofNat (16 * first + second)
  | some first, none => UInt8.ofNat first
  | none, _ => 0

def urlDecode : List UInt8 → List UInt8
  | [] => []
  | encodedChar :: rest =>
      if encodedChar = 37 then
        match rest with
        | high :: low :: rest => hexByte high low :: urlDecode rest
        -- a `%` with less than two characters behind it stays
        | [last] => encodedChar :: urlDecode [last]
        | [] => [encodedChar]
      else if encodedChar = 43 then 32 :: urlDecode rest
      else encodedChar :: urlDecode rest

/-- The loop of `_addGetParams`, of at most so many turns. -/
def getParamsFrom (params : List UInt8) : ℕ → ℕ → List AsyncWebParameter
  | 0, _ => []
  | turns + 1, start =>
      if start < params.length then
        let found := indexOf params 38 start
        let stop := if found < 0 then (params.length : ℤ) else found
        let found := indexOf params 61 start
        let equal := if found < 0 ∨ stop < found then stop else found
        let name := substring params start (unsigned equal)
        let value :=
          if equal + 1 < stop then substring params (unsigned (equal + 1)) (unsigned stop) else []
        { name := urlDecode name, value := urlDecode value, isForm := false, isFile := false,
          size := 0 } :: getParamsFrom params turns (unsigned (stop + 1))
      else []

/-- `strContains`. -/
def strContains (src find : List UInt8) (mindcase : Bool) : Bool :=
  if src.length < find.length then false
  else (List.range (src.length - find.length + 1)).any fun pos =>
    let piece := (src.drop pos).take find.length
    if mindcase then piece = find else piece.map toLower = find.map toLower

namespace AsyncWebServerRequest

/-- A request as it is constructed for a new connection. -/
def new : AsyncWebServerRequest where
  temp := []
  parseState := .reqStart
  version := 0
  method := httpAny
  url := []
  host := []
  contentType := []
  boundary := []
  authorization := []
  reqconntype := .http
  isDigest := false
  isMultipart := false
  isPlainPost := false
  expectingContinue := false
  contentLength := 0
  parsedLength := 0
  headers := []
  params := []
  interestingHeaders := []
  handler := none
  item := ⟨.expectBoundary, 0, 0, [], [], [], [], false⟩

section Lines

variable (request : AsyncWebServerRequest)

def addParam (param : AsyncWebParameter) : AsyncWebServerRequest :=
  { request with params := request.params ++ [param] }

def addGetParams (params : List UInt8) : AsyncWebServerRequest :=
  { request with params := request.params ++ getParamsFrom params params.length 0 }

/-- The method of a request line; an unknown one is left as it was. -/
def methodOf (text : List UInt8) (method : UInt8) : UInt8 :=
  if equals text "GET" then httpGet
  else if equals text "POST" then httpPost
  else if equals text "DELETE" then httpDelete
  else if equals text "PUT" then httpPut
  else if equals text "PATCH" then httpPatch
  else if equals text "HEAD" then httpHead
  else if equals text "OPTIONS" then httpOptions
  else method

def parseReqHead : AsyncWebServerRequest :=
  let temp := request.temp
  let index := indexOf temp 32 0
  let m := substring temp 0 (unsigned index)
  let index := indexOf temp 32 (unsigned (index + 1))
  let u := substring temp (m.length + 1) (unsigned index)
  let temp := substring temp (unsigned (index + 1)) temp.length
  let index := indexOf u 63 0
  let g := if 0 < index then substring u (unsigned (index + 1)) u.length else []
  let u := if 0 < index then substring u 0 (unsigned index) else u
  let request := { request with method := methodOf m request.method, url := urlDecode u }
  let request := request.addGetParams g
  { request with
    version := if startsWith temp "HTTP/1.0" then request.version else 1
    temp := [] }

/-- What a header sets beside being kept in `headers`. -/
def applyHeader (name value : List UInt8) : AsyncWebServerRequest :=
  if equalsIgnoreCase name (ofString "Host") then { request with host := value }
  else if equalsIgnoreCase name (ofString "Content-Type") then
    let contentType := substring value 0 (unsigned (indexOf value 59 0))
    if startsWith value "multipart/" then
      let boundary := substring value (unsigned (indexOf value 61 0 + 1)) value.length
      { request with
        contentType := contentType
        boundary := boundary.filter (· ≠ 34)
        isMultipart := true }
    else { request with contentType := contentType }
  else if equalsIgnoreCase name (ofString "Content-Length") then
    { request with contentLength := unsigned (toInt value) }
  else if equalsIgnoreCase name (ofString "Expect") && equals value "100-continue" then
    { request with expectingContinue := true }
  else if equalsIgnoreCase name (ofString "Authorization") then
    if 5 < value.length && equalsIgnoreCase (substring value 0 5) (ofString "Basic") then
      { request with authorization := substring value 6 value.length }
    else if 6 < value.length && equalsIgnoreCase (substring value 0 6) (ofString "Digest") then
      { request with isDigest := true, authorization := substring value 7 value.length }
    else request
  else if equalsIgnoreCase name (ofString "Upgrade") &&
      equalsIgnoreCase value (ofString "websocket") then
    { request with reqconntype := .ws }
  else if equalsIgnoreCase name (ofString "Accept") &&
      strContains value (ofString "text/event-stream") false then
    { request with reqconntype := .event }
  else request

def parseReqHeader : AsyncWebServerRequest :=
  let temp := request.temp
  let index := indexOf temp 58 0
  -- a line without a colon is a name with a value; one that begins with a colon is nothing
  if index ≠ 0 then
    let name := substring temp 0 (unsigned index)
    let value := substring temp (unsigned (index + 2)) temp.length
    let request := request.applyHeader name value
    { request with headers := request.headers ++ [⟨name, value⟩], temp := [] }
  else { request with temp := [] }

/-- `arg`: the value of the first parameter of that name, or nothing. -/
def arg (name : String) : List UInt8 :=
  match request.params.find? fun param => param.name = ofString name with
  | some param => param.value
  | none => []

end Lines

/-! ## Bodies -/

section Body

variable (request : AsyncWebServerRequest)

def countByte : AsyncWebServerRequest :=
  { request with parsedLength := request.parsedLength + 1 }

def parsePlainPostChar (data : UInt8) : AsyncWebServerRequest :=
  let temp := if data ≠ 0 ∧ data ≠ 38 then request.temp ++ [data] else request.temp
  if data = 0 ∨ data = 38 ∨ request.parsedLength = request.contentLength then
    let equal := indexOf temp 61 0
    let named := !startsWith temp "\x7b" && !startsWith temp "[" && decide (0 < equal)
    let name := if named then substring temp 0 (unsigned equal) else ofString "body"
    let value := if named then substring temp (unsigned (equal + 1)) temp.length else temp
    { request.addParam ⟨urlDecode name, urlDecode value, true, false, 0⟩ with temp := [] }
  else { request with temp := temp }

/-- `itemWriteByte` of some bytes.  What an upload does with the bytes of a file is left
out: no handler of the firmware takes any. -/
def itemWriteBytes (bytes : List UInt8) : AsyncWebServerRequest :=
  { request with
    item := { request.item with
      itemSize := request.item.itemSize + bytes.length
      itemValue :=
        if request.item.itemIsFile then request.item.itemValue
        else request.item.itemValue ++ bytes } }

def toState (state : MultiParseState) : AsyncWebServerRequest :=
  { request with item := { request.item with multiParseState := state } }

/-- `name="value"` in a `Content-Disposition`. -/
def dispose (name nameVal : List UInt8) : AsyncWebServerRequest :=
  if equals name "name" then { request with item := { request.item with itemName := nameVal } }
  else if equals name "filename" then
    { request with item := { request.item with itemFilename := nameVal, itemIsFile := true } }
  else request

/-- The loop over the fields of a `Content-Disposition`, of at most so many turns. -/
def disposition : ℕ → AsyncWebServerRequest → List UInt8 → AsyncWebServerRequest
  | 0, request, _ => request
  | turns + 1, request, temp =>
      let equal := indexOf temp 61 0
      let name := substring temp 0 (unsigned equal)
      let semicolon := indexOf temp 59 0
      if 0 < semicolon then
        let nameVal := substring temp (unsigned (equal + 2)) (unsigned (semicolon - 1))
        disposition turns (request.dispose name nameVal)
          (substring temp (unsigned (semicolon + 2)) temp.length)
      else
        request.dispose name (substring temp (unsigned (equal + 2)) (unsigned (temp.length - 1)))

/-- The header of a part, when its line has ended. -/
def partHeader : AsyncWebServerRequest :=
  let temp := request.temp
  if 12 < temp.length && equalsIgnoreCase (substring temp 0 12) (ofString "Content-Type") then
    { request with
      item := { request.item with
        itemType := substring temp 14 temp.length
        itemIsFile := true } }
  else if 19 < temp.length &&
      equalsIgnoreCase (substring temp 0 19) (ofString "Content-Disposition") then
    disposition temp.length request
      (substring temp (unsigned (indexOf temp 59 0 + 2)) temp.length)
  else request

/-- The branch of `WAIT_FOR_RETURN1`. -/
def waitForReturn (data : UInt8) : AsyncWebServerRequest :=
  if data ≠ 13 then request.itemWriteBytes [data] else request.toState .expectFeed1

/-- What looked like a boundary was not: its bytes belong to the value, and `data` is
read again. -/
def backToData (bytes : List UInt8) (data : UInt8) : AsyncWebServerRequest :=
  ((request.toState .waitForReturn1).itemWriteBytes bytes).waitForReturn data

/-- The last byte of a boundary has been read. -/
def boundaryRead : AsyncWebServerRequest :=
  let item := request.item
  let request := request.toState .dash3OrReturn2
  if !item.itemIsFile then request.addParam ⟨item.itemName, item.itemValue, true, false, 0⟩
  else if item.itemSize ≠ 0 then
    request.addParam ⟨item.itemName, item.itemFilename, true, true, item.itemSize⟩
  else request

/-- The branch of `EXPECT_BOUNDARY`: the first line of the body. -/
def expectBoundary (data : UInt8) : AsyncWebServerRequest :=
  let place := request.parsedLength
  let boundary := request.boundary
  if place < 2 ∧ data ≠ 45 then request.toState .parseError
  else if 2 ≤ place ∧ place - 2 < boundary.length ∧ boundary.getD (place - 2) 0 ≠ data then
    request.toState .parseError
  else if 2 ≤ place ∧ place - 2 = boundary.length ∧ data ≠ 13 then request.toState .parseError
  else if 3 ≤ place ∧ place - 3 = boundary.length then
    if data ≠ 10 then request.toState .parseError
    else
      { request with
        item := { request.item with multiParseState := .parseHeaders, itemIsFile := false } }
  else request

/-- The branch of `PARSE_HEADERS`. -/
def parsePartHeaders (data : UInt8) : AsyncWebServerRequest :=
  if data = 10 then
    if request.temp ≠ [] then { request.partHeader with temp := [] }
    else
      { request with
        item := { request.item with
          multiParseState := .waitForReturn1
          itemSize := 0
          itemValue := [] } }
  else if data = 13 then request
  else { request with temp := request.temp ++ [data] }

/-- The branch of `DASH3_OR_RETURN2`. -/
def dash3OrReturn2 (data : UInt8) : AsyncWebServerRequest :=
  let request :=
    if data = 45 then { request with contentLength := request.parsedLength + 4 } else request
  if data = 13 then request.toState .expectFeed2
  else if data = 45 then request.toState .parsingFinished
  else request.backToData ([13, 10, 45, 45] ++ request.boundary) data

/-- What a byte of a multipart body does in each state. -/
def readPart (data : UInt8) : AsyncWebServerRequest :=
  match request.item.multiParseState with
  | .waitForReturn1 => request.waitForReturn data
  | .expectBoundary => request.expectBoundary data
  | .parseHeaders => request.parsePartHeaders data
  | .expectFeed1 =>
      if data ≠ 10 then request.backToData [13] data else request.toState .expectDash1
  | .expectDash1 =>
      if data ≠ 45 then request.backToData [13, 10] data else request.toState .expectDash2
  | .expectDash2 =>
      if data ≠ 45 then request.backToData [13, 10, 45] data
      else
        { request with
          item := { request.item with multiParseState := .boundaryOrData, boundaryPosition := 0 } }
  | .boundaryOrData =>
      let position := request.item.boundaryPosition
      if position.toNat < request.boundary.length ∧
          request.boundary.getD position.toNat 0 ≠ data then
        request.backToData ([13, 10, 45, 45] ++ request.boundary.take position.toNat) data
      else if position.toNat + 1 = request.boundary.length then request.boundaryRead
      else
        { request with item := { request.item with boundaryPosition := position + 1 } }
  | .dash3OrReturn2 => request.dash3OrReturn2 data
  | .expectFeed2 =>
      if data = 10 then
        { request with
          item := { request.item with multiParseState := .parseHeaders, itemIsFile := false } }
      else request.backToData ([13, 10, 45, 45] ++ request.boundary ++ [13]) data
  | .parsingFinished => request
  | .parseError => request

/-- The parser before the first byte of a body. -/
def startParts : AsyncWebServerRequest :=
  { request with
    temp := []
    item := { request.item with
      multiParseState := .expectBoundary
      itemName := []
      itemFilename := []
      itemType := [] } }

def parseMultipartPostByte (data : UInt8) : AsyncWebServerRequest :=
  if request.parsedLength = 0 then request.startParts.readPart data else request.readPart data

end Body

/-! ## What the bytes of a body leave alone -/

/-- What the bytes of a body of parameters leave alone. -/
structure SameBody (before after : AsyncWebServerRequest) : Prop where
  parseState : after.parseState = before.parseState
  contentType : after.contentType = before.contentType
  contentLength : after.contentLength = before.contentLength
  isMultipart : after.isMultipart = before.isMultipart
  isPlainPost : after.isPlainPost = before.isPlainPost
  handler : after.handler = before.handler

theorem SameBody.trans {first second third : AsyncWebServerRequest}
    (hfirst : SameBody first second) (hsecond : SameBody second third) :
    SameBody first third where
  parseState := hsecond.parseState.trans hfirst.parseState
  contentType := hsecond.contentType.trans hfirst.contentType
  contentLength := hsecond.contentLength.trans hfirst.contentLength
  isMultipart := hsecond.isMultipart.trans hfirst.isMultipart
  isPlainPost := hsecond.isPlainPost.trans hfirst.isPlainPost
  handler := hsecond.handler.trans hfirst.handler

theorem parsePlainPostChar_same (request : AsyncWebServerRequest) (data : UInt8) :
    SameBody request (request.parsePlainPostChar data) ∧
      (request.parsePlainPostChar data).parsedLength = request.parsedLength := by
  unfold parsePlainPostChar
  split_ifs <;> exact ⟨⟨rfl, rfl, rfl, rfl, rfl, rfl⟩, rfl⟩

/-- A byte of a body of parameters. -/
def plainPostByte (request : AsyncWebServerRequest) (data : UInt8) : AsyncWebServerRequest :=
  request.countByte.parsePlainPostChar data

theorem plainPost_same (request : AsyncWebServerRequest) (buf : List UInt8) :
    SameBody request (buf.foldl plainPostByte request) ∧
      (buf.foldl plainPostByte request).parsedLength = request.parsedLength + buf.length := by
  induction buf generalizing request with
  | nil => exact ⟨⟨rfl, rfl, rfl, rfl, rfl, rfl⟩, rfl⟩
  | cons data rest ih =>
      obtain ⟨hsame, hcount⟩ := parsePlainPostChar_same request.countByte data
      obtain ⟨hrest, hlength⟩ := ih (request.plainPostByte data)
      have hcounted : SameBody request request.countByte := ⟨rfl, rfl, rfl, rfl, rfl, rfl⟩
      refine ⟨(hcounted.trans hsame).trans hrest, ?_⟩
      calc ((data :: rest).foldl plainPostByte request).parsedLength
          = (request.plainPostByte data).parsedLength + rest.length := hlength
        _ = request.parsedLength + 1 + rest.length := by rw [plainPostByte, hcount, countByte]
        _ = request.parsedLength + (data :: rest).length := by
            rw [List.length_cons]
            omega

/-- What the bytes of a multipart body leave alone. -/
structure SameParts (before after : AsyncWebServerRequest) : Prop where
  parseState : after.parseState = before.parseState
  contentType : after.contentType = before.contentType
  isMultipart : after.isMultipart = before.isMultipart
  handler : after.handler = before.handler
  boundary : after.boundary = before.boundary
  parsedLength : after.parsedLength = before.parsedLength
  params : before.params <+: after.params

theorem SameParts.refl (request : AsyncWebServerRequest) : SameParts request request :=
  ⟨rfl, rfl, rfl, rfl, rfl, rfl, List.prefix_rfl⟩

/-- A change of the part that is read. -/
theorem SameParts.of_item (request : AsyncWebServerRequest) (item : MultipartItem) :
    SameParts request { request with item := item } :=
  ⟨rfl, rfl, rfl, rfl, rfl, rfl, List.prefix_rfl⟩

theorem SameParts.trans {first second third : AsyncWebServerRequest}
    (hfirst : SameParts first second) (hsecond : SameParts second third) :
    SameParts first third where
  parseState := hsecond.parseState.trans hfirst.parseState
  contentType := hsecond.contentType.trans hfirst.contentType
  isMultipart := hsecond.isMultipart.trans hfirst.isMultipart
  handler := hsecond.handler.trans hfirst.handler
  boundary := hsecond.boundary.trans hfirst.boundary
  parsedLength := hsecond.parsedLength.trans hfirst.parsedLength
  params := hfirst.params.trans hsecond.params

theorem dispose_same (request : AsyncWebServerRequest) (name nameVal : List UInt8) :
    SameParts request (request.dispose name nameVal) := by
  unfold dispose
  split_ifs <;> exact ⟨rfl, rfl, rfl, rfl, rfl, rfl, List.prefix_rfl⟩

theorem disposition_same (turns : ℕ) (request : AsyncWebServerRequest) (temp : List UInt8) :
    SameParts request (disposition turns request temp) := by
  induction turns generalizing request temp with
  | zero => exact .refl request
  | succ turns ih =>
      unfold disposition
      dsimp only
      split_ifs
      · exact (dispose_same ..).trans (ih ..)
      · exact dispose_same ..

theorem partHeader_same (request : AsyncWebServerRequest) :
    SameParts request request.partHeader := by
  unfold partHeader
  dsimp only
  split_ifs
  · exact ⟨rfl, rfl, rfl, rfl, rfl, rfl, List.prefix_rfl⟩
  · exact disposition_same ..
  · exact .refl request

theorem waitForReturn_same (request : AsyncWebServerRequest) (data : UInt8) :
    SameParts request (request.waitForReturn data) := by
  unfold waitForReturn
  split_ifs <;> exact ⟨rfl, rfl, rfl, rfl, rfl, rfl, List.prefix_rfl⟩

theorem backToData_same (request : AsyncWebServerRequest) (bytes : List UInt8) (data : UInt8) :
    SameParts request (request.backToData bytes data) := by
  have hwritten : SameParts request
      ((request.toState .waitForReturn1).itemWriteBytes bytes) :=
    ⟨rfl, rfl, rfl, rfl, rfl, rfl, List.prefix_rfl⟩
  exact hwritten.trans (waitForReturn_same ..)

theorem boundaryRead_same (request : AsyncWebServerRequest) :
    SameParts request request.boundaryRead := by
  unfold boundaryRead
  dsimp only
  split_ifs
  · exact ⟨rfl, rfl, rfl, rfl, rfl, rfl, List.prefix_append ..⟩
  · exact ⟨rfl, rfl, rfl, rfl, rfl, rfl, List.prefix_append ..⟩
  · exact ⟨rfl, rfl, rfl, rfl, rfl, rfl, List.prefix_rfl⟩

theorem expectBoundary_same (request : AsyncWebServerRequest) (data : UInt8) :
    SameParts request (request.expectBoundary data) := by
  unfold expectBoundary
  dsimp only
  split_ifs <;> exact ⟨rfl, rfl, rfl, rfl, rfl, rfl, List.prefix_rfl⟩

theorem parsePartHeaders_same (request : AsyncWebServerRequest) (data : UInt8) :
    SameParts request (request.parsePartHeaders data) := by
  have hcleared : ∀ before after : AsyncWebServerRequest, SameParts before after →
      SameParts before { after with temp := [] } := fun _ _ hsame =>
    ⟨hsame.parseState, hsame.contentType, hsame.isMultipart, hsame.handler, hsame.boundary,
      hsame.parsedLength, hsame.params⟩
  unfold parsePartHeaders
  split_ifs
  · exact hcleared _ _ request.partHeader_same
  · exact ⟨rfl, rfl, rfl, rfl, rfl, rfl, List.prefix_rfl⟩
  · exact .refl request
  · exact ⟨rfl, rfl, rfl, rfl, rfl, rfl, List.prefix_rfl⟩

theorem dash3OrReturn2_same (request : AsyncWebServerRequest) (data : UInt8) :
    SameParts request (request.dash3OrReturn2 data) := by
  unfold dash3OrReturn2
  dsimp only
  split_ifs
  · exact ⟨rfl, rfl, rfl, rfl, rfl, rfl, List.prefix_rfl⟩
  · exact ⟨rfl, rfl, rfl, rfl, rfl, rfl, List.prefix_rfl⟩
  · exact ⟨rfl, rfl, rfl, rfl, rfl, rfl, List.prefix_rfl⟩
  · exact backToData_same ..

theorem startParts_same (request : AsyncWebServerRequest) :
    SameParts request request.startParts :=
  ⟨rfl, rfl, rfl, rfl, rfl, rfl, List.prefix_rfl⟩

theorem parseMultipartPostByte_same (request : AsyncWebServerRequest) (data : UInt8) :
    SameParts request (request.parseMultipartPostByte data) := by
  have hread : ∀ request : AsyncWebServerRequest, SameParts request (request.readPart data) := by
    intro request
    unfold readPart
    cases request.item.multiParseState with
    | waitForReturn1 => exact waitForReturn_same ..
    | expectBoundary => exact expectBoundary_same ..
    | parseHeaders => exact parsePartHeaders_same ..
    | expectFeed1 =>
        dsimp only
        split_ifs
        · exact backToData_same ..
        · exact .of_item request _
    | expectDash1 =>
        dsimp only
        split_ifs
        · exact backToData_same ..
        · exact .of_item request _
    | expectDash2 =>
        dsimp only
        split_ifs
        · exact backToData_same ..
        · exact .of_item request _
    | boundaryOrData =>
        dsimp only
        split_ifs
        · exact backToData_same ..
        · exact boundaryRead_same ..
        · exact .of_item request _
    | dash3OrReturn2 => exact dash3OrReturn2_same ..
    | expectFeed2 =>
        dsimp only
        split_ifs
        · exact .of_item request _
        · exact backToData_same ..
    | parsingFinished => exact .refl request
    | parseError => exact .refl request
  unfold parseMultipartPostByte
  split_ifs
  · exact (startParts_same request).trans (hread request.startParts)
  · exact hread request

/-- A byte of a multipart body. -/
def multipartByte (request : AsyncWebServerRequest) (data : UInt8) : AsyncWebServerRequest :=
  (request.parseMultipartPostByte data).countByte

theorem multipart_same (request : AsyncWebServerRequest) (buf : List UInt8) :
    (buf.foldl multipartByte request).isMultipart = request.isMultipart ∧
      (buf.foldl multipartByte request).contentType = request.contentType ∧
      (buf.foldl multipartByte request).parsedLength = request.parsedLength + buf.length := by
  induction buf generalizing request with
  | nil => exact ⟨rfl, rfl, rfl⟩
  | cons data rest ih =>
      have hbyte := parseMultipartPostByte_same request data
      obtain ⟨hmultipart, htype, hcount⟩ := ih (request.multipartByte data)
      refine ⟨hmultipart.trans hbyte.isMultipart, htype.trans hbyte.contentType, ?_⟩
      calc ((data :: rest).foldl multipartByte request).parsedLength
          = (request.parseMultipartPostByte data).parsedLength + 1 + rest.length := hcount
        _ = request.parsedLength + (data :: rest).length := by
            rw [hbyte.parsedLength, List.length_cons]
            omega

end AsyncWebServerRequest

end Ph5Firmware
