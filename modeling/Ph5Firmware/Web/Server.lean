import Ph5Firmware.Web.Request

/-!
# The web server

`_onData` is called with one TCP segment at a time.  Until the blank line it looks for
line ends, keeps a line that has not ended in `temp`, and reads every line that has;
behind the blank line it gives the bytes to the body of the request.

* `attachHandler` chooses the handler of a request when its headers are read.
* `onData` is `_onData`; a request whose state has become `reqEnd` is handed to its
  handler, in the same call.
* `receive` hands over one segment after the other.
-/

namespace Ph5Firmware

open ByteText

namespace AsyncWebServerRequest

variable (request : AsyncWebServerRequest)

def addInterestingHeader (name : List UInt8) : AsyncWebServerRequest :=
  if request.interestingHeaders.any (equalsIgnoreCase name) then request
  else { request with interestingHeaders := request.interestingHeaders ++ [name] }

def removeNotInterestingHeaders : AsyncWebServerRequest :=
  if request.interestingHeaders.any (equalsIgnoreCase (ofString "ANY")) then request
  else
    { request with
      headers := request.headers.filter fun header =>
        request.interestingHeaders.any (equalsIgnoreCase header.name) }

end AsyncWebServerRequest

namespace AsyncWebHandler

/-- Whether the path of a request is one of a callback's. -/
def uriMatches (uri url : List UInt8) : Bool :=
  if uri = [] then true
  else if startsWith uri "/*." then
    let suffix := uri.rtakeWhile (· ≠ 46)
    (46 :: suffix).isSuffixOf url
  else if endsWith uri "*" then uri.dropLast.isPrefixOf url
  else uri = url || (uri ++ [47]).isPrefixOf url

/-- The headers a WebSocket asks for. -/
def webSocketHeaders : List String :=
  ["Connection", "Upgrade", "Origin", "Sec-WebSocket-Version", "Sec-WebSocket-Key",
    "Sec-WebSocket-Protocol"]

/-- `canHandle`, with the request as it is left if it can. -/
def canHandle (request : AsyncWebServerRequest) :
    AsyncWebHandler → Option AsyncWebServerRequest
  | callback uri method =>
      if method &&& request.method ≠ 0 ∧ uriMatches uri request.url = true then
        some (request.addInterestingHeader (ofString "ANY"))
      else none
  | webSocket url =>
      if request.method = httpGet ∧ request.url = url ∧ request.reqconntype = .ws then
        some (webSocketHeaders.foldl (fun request name =>
          request.addInterestingHeader (ofString name)) request)
      else none
  | catchAll _ => none

def isRequestHandlerTrivial : AsyncWebHandler → Bool
  | callback _ _ => false
  | webSocket _ => true
  | catchAll onRequest => !onRequest

end AsyncWebHandler

structure AsyncWebServer where
  handlers : List AsyncWebHandler
  /-- The `_onRequest` of `_catchAllHandler`. -/
  onNotFound : Bool
  deriving DecidableEq

namespace AsyncWebServer

variable (server : AsyncWebServer)

/-- The first handler that can handle the request, or the catch-all handler. -/
def attachHandler (request : AsyncWebServerRequest) : AsyncWebServerRequest :=
  go server.handlers
where
  go : List AsyncWebHandler → AsyncWebServerRequest
    | [] =>
        { request.addInterestingHeader (ofString "ANY") with
          handler := some (.catchAll server.onNotFound) }
    | handler :: rest =>
        match handler.canHandle request with
        | some request => { request with handler := some handler }
        | none => go rest

/-- The blank line.  Left out are the answer `100 Continue`, which changes nothing here,
and the rewrites, of which the firmware has none. -/
def endOfHeaders (request : AsyncWebServerRequest) : AsyncWebServerRequest :=
  let request := (server.attachHandler request).removeNotInterestingHeaders
  if request.contentLength ≠ 0 then { request with parseState := .reqBody }
  else { request with parseState := .reqEnd }

def parseLine (request : AsyncWebServerRequest) : AsyncWebServerRequest :=
  match request.parseState with
  | .reqStart =>
      if request.temp = [] then { request with parseState := .reqFail }
      else { request.parseReqHead with parseState := .reqHeaders }
  | .reqHeaders =>
      if request.temp = [] then server.endOfHeaders request else request.parseReqHeader
  | _ => request

end AsyncWebServer

namespace AsyncWebServerRequest

variable (request : AsyncWebServerRequest)

/-- `_parseState < PARSE_REQ_BODY`. -/
def beforeBody : Bool :=
  request.parseState = .reqStart || request.parseState = .reqHeaders

def needParse : Bool :=
  match request.handler with
  | some handler => !handler.isRequestHandlerTrivial
  | none => false

def isParamChar (byte : UInt8) : Bool :=
  byte ≠ 0 && byte ≠ 123 && byte ≠ 91 && byte ≠ 38 && byte ≠ 61

/-- What the first segment of a body decides. -/
def classify (buf : List UInt8) : AsyncWebServerRequest :=
  if startsWith request.contentType "application/x-www-form-urlencoded" then
    { request with isPlainPost := true }
  else if equals request.contentType "text/plain" && (buf.head?.any isParamChar) &&
      -- the first byte that is none for a parameter's name is followed by another
      (buf.dropWhile isParamChar).head? = some 61 &&
      (buf.takeWhile isParamChar).length + 1 < buf.length then
    { request with isPlainPost := true }
  else request

def countBytes (len : ℕ) : AsyncWebServerRequest :=
  { request with parsedLength := request.parsedLength + len }

/-- The bytes of a segment behind the blank line, without what follows when the last
of them has come. -/
def parseBody (buf : List UInt8) : AsyncWebServerRequest :=
  if request.isMultipart then
    if request.needParse then buf.foldl multipartByte request
    else request.countBytes buf.length
  else
    let request := if request.parsedLength = 0 then request.classify buf else request
    if request.isPlainPost && request.needParse then buf.foldl plainPostByte request
    else request.countBytes buf.length

def onBody (buf : List UInt8) : AsyncWebServerRequest :=
  let request := request.parseBody buf
  if request.parsedLength = request.contentLength then { request with parseState := .reqEnd }
  else request

/-- A segment without a line end: it is kept. -/
def keep (buf : List UInt8) : AsyncWebServerRequest :=
  match buf.getLast? with
  | some ch => { request with temp := request.temp ++ Text.upTo 0 buf.dropLast ++ [ch] }
  | none => request

/-- A line that has ended, with what was kept of it. -/
def completeLine (line : List UInt8) : AsyncWebServerRequest :=
  { request with temp := trim (request.temp ++ Text.upTo 0 line) }

end AsyncWebServerRequest

namespace AsyncWebServer

open AsyncWebServerRequest

variable (server : AsyncWebServer)

/-- The loop of `_onData`, of at most so many turns. -/
def dataTurns : ℕ → AsyncWebServerRequest → List UInt8 → AsyncWebServerRequest
  | 0, request, _ => request
  | turns + 1, request, buf =>
      if request.beforeBody then
        if 10 ∈ buf then
          let request := server.parseLine (request.completeLine (buf.takeWhile (· ≠ 10)))
          let rest := (buf.dropWhile (· ≠ 10)).tail
          if rest ≠ [] then dataTurns turns request rest else request
        else request.keep buf
      else if request.parseState = .reqBody then request.onBody buf
      else request

def onData (request : AsyncWebServerRequest) (buf : List UInt8) : AsyncWebServerRequest :=
  server.dataTurns buf.length request buf

/-- One segment after the other. -/
def receive (request : AsyncWebServerRequest) (segments : List (List UInt8)) :
    AsyncWebServerRequest :=
  segments.foldl server.onData request

end AsyncWebServer

end Ph5Firmware
