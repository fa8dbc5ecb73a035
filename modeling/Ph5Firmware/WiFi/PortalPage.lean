import Ph5Firmware.Web.Form
import Ph5Firmware.WiFi.Portal

/-!
# The page of the configuration portal

The page's `udVal` sends every input field in a request of its own, a `GET` of
`/?key=…&value=…` with the value percent-encoded.  The portal's web server has no
handlers, so every request ends in `handleRequest`.

* `connection_page`: the bytes of such a request, cut in any way, are `handleRequest` of
  the field and its value.
* `page_submission`: what is typed into the page is what the portal writes, whatever
  order the fields are sent in, and after the last one, no sooner, the board is reset.
-/

namespace Ph5Firmware

open ByteText UrlEncoding

/-- The web server of `startConfigurationMode`. -/
def portalServer : AsyncWebServer := { handlers := [], onNotFound := true }

/-- A key as it compares: with `""` up to its first NUL, with another text as a whole. -/
def keyText (key : List UInt8) : String :=
  if Text.upTo 0 key = [] then "" else String.ofList (key.map fun byte => Char.ofNat byte.toNat)

namespace Portal

/-- `handleRequest` of a request that has been read. -/
def serve (portal : Portal) (request : AsyncWebServerRequest) : Portal × Bool :=
  portal.handleRequest (keyText (request.arg "key")) (Text.upTo 0 (request.arg "value"))

/-- A connection, with the segments that arrive on it. -/
def connection (portal : Portal) (segments : List (List UInt8)) : Portal × Bool :=
  let request := portalServer.receive .new segments
  if request.parseState = .reqEnd then portal.serve request else (portal, false)

/-- The connections in order, up to the one that resets. -/
def connections (portal : Portal) : List (List (List UInt8)) → Portal × Bool
  | [] => (portal, false)
  | segments :: rest =>
      let result := portal.connection segments
      if result.2 then result else result.1.connections rest

end Portal

/-- A request of `udVal` for a field and its value.  `encodeURIComponent` is the encoding
that leaves the unreserved bytes alone; a browser may encode more. -/
structure PageRequest where
  item : PortalItem
  value : List UInt8
  form : Query
  path : form.path = ofString "/"
  params : form.params =
    [(ofString "key", ofString item.key), (ofString "value", value)]
  segments : List (List UInt8)
  cut : segments.flatten = form.bytes

namespace PageRequest

variable (page : PageRequest)

def request : PortalItem × List UInt8 :=
  (page.item, page.value)

theorem keyText_key (item : PortalItem) : keyText (ofString item.key) = item.key := by
  cases item <;> decide

/-- The two arguments that `handleRequest` asks for. -/
theorem args_read :
    (portalServer.receive .new page.segments).arg "key" = ofString page.item.key ∧
      (portalServer.receive .new page.segments).arg "value" = page.value := by
  obtain ⟨-, -, -, hparams⟩ := page.form.receive portalServer page.segments page.cut
  rw [page.params] at hparams
  have hother : ¬ ofString "key" = ofString "value" := by decide
  constructor
  · simp [AsyncWebServerRequest.arg, hparams, getParam]
  · simp [AsyncWebServerRequest.arg, hparams, getParam, hother]

/-- **The bytes of a request of the page**, cut in any way. -/
theorem connection_page (portal : Portal) (hnul : 0 ∉ page.value) :
    portal.connection page.segments = portal.handleRequest page.item.key page.value := by
  obtain ⟨hend, -⟩ := page.form.receive portalServer page.segments page.cut
  obtain ⟨hkey, hvalue⟩ := page.args_read
  unfold Portal.connection
  rw [if_pos hend, Portal.serve, hkey, hvalue, keyText_key, Text.upTo_eq_self hnul]

end PageRequest

namespace Portal

theorem connections_pages (portal : Portal) (pages : List PageRequest)
    (hnul : ∀ page ∈ pages, 0 ∉ page.value) :
    portal.connections (pages.map PageRequest.segments) =
      portal.handleRequests (pages.map PageRequest.request) := by
  induction pages generalizing portal with
  | nil => rfl
  | cons page rest ih =>
      have hpage := page.connection_page portal (hnul page (List.mem_cons_self ..))
      have hrest := ih (portal.handleRequest page.item.key page.value).1
        fun later hlater => hnul later (List.mem_cons_of_mem page hlater)
      rw [List.map_cons, List.map_cons, connections, Portal.handleRequests, hpage, hrest]
      rfl

end Portal

/-- **What is typed into the page is what the portal writes.** The last request resets the
board, and none before it. -/
theorem page_submission (manager : WiFiManager) (submission : PortalSubmission)
    (pages : List PageRequest) (hpages : pages.map PageRequest.request = submission.requests) :
    (∀ count < pages.length, ((Portal.opened manager).connections
        ((pages.take count).map PageRequest.segments)).2 = false) ∧
      ((Portal.opened manager).connections (pages.map PageRequest.segments)).2 = true ∧
      ∀ slot, ((Portal.opened manager).connections
        (pages.map PageRequest.segments)).1.manager.credentials slot =
          submission.credentials slot := by
  have hnul : ∀ page ∈ pages, 0 ∉ page.value := by
    intro page hpage
    have hmem : page.request ∈ submission.requests := by
      rw [← hpages]
      exact List.mem_map_of_mem hpage
    exact submission.nulFree page.request hmem
  refine ⟨?_, ?_⟩
  · intro count hcount
    rw [Portal.connections_pages _ (pages.take count)
      fun page hpage => hnul page (List.mem_of_mem_take hpage), List.map_take, hpages]
    refine submission.submission_early manager ?_
    rwa [← hpages, List.length_map]
  · rw [Portal.connections_pages _ pages hnul, hpages]
    exact ⟨submission.submission_resets manager, submission.submission_written manager⟩

/-- The request of a browser that encodes no more than it must, in single bytes. -/
def byteByByte (item : PortalItem) (value : List UInt8)
    (hsmall : 1 + (query unreserved
      [(ofString "key", ofString item.key), (ofString "value", value)]).length < 4294967000) :
    PageRequest :=
  let form : Query :=
    { path := [47]
      params := [(ofString "key", ofString item.key), (ofString "value", value)]
      plain := unreserved
      headers := [ofString "Host: 192.168.4.1\x0d"]
      plain_unreserved := fun _ hbyte => hbyte
      path_ne_nil := by decide
      path_proper := by
        intro byte hbyte
        obtain rfl := List.mem_singleton.mp hbyte
        decide
      headers_proper := by
        intro line hline
        obtain rfl := List.mem_singleton.mp hline
        exact ⟨by decide, by decide, by decide, by decide⟩
      small := hsmall }
  { item := item
    value := value
    form := form
    path := show [47] = ofString "/" by decide
    params := rfl
    segments := form.bytes.map fun byte => [byte]
    cut := by rw [← List.flatMap_def, List.flatMap_singleton'] }

theorem boardName_received :
    let page := byteByByte .nm (List.replicate 3 43) (by decide)
    let request := portalServer.receive .new page.segments
    request.parseState = .reqEnd ∧ request.method = httpGet ∧
      request.url = urlDecode page.form.path ∧ request.params = page.form.params.map getParam :=
  Query.receive _ _ _ (PageRequest.cut _)

theorem firstSubmission_typed :
    let pages := [byteByByte .nm [] (by decide), byteByByte .pw (List.replicate 8 98) (by decide),
      byteByByte .pw1 [] (by decide), byteByByte .id (List.replicate 5 98) (by decide),
      byteByByte .id1 [] (by decide)]
    (∀ count < pages.length, ((Portal.opened WiFiState.blankState.manager).connections
        ((pages.take count).map PageRequest.segments)).2 = false) ∧
      ((Portal.opened WiFiState.blankState.manager).connections
        (pages.map PageRequest.segments)).2 = true ∧
      ∀ slot, ((Portal.opened WiFiState.blankState.manager).connections
        (pages.map PageRequest.segments)).1.manager.credentials slot =
          WiFiState.firstSubmission.credentials slot :=
  page_submission _ WiFiState.firstSubmission _ rfl

end Ph5Firmware
