import Ph5Firmware.Web.Server

/-!
# Requests and TCP segments

How TCP cuts a request into segments makes no difference to what the server reads,
with the exceptions that `Settled` rules out: the first segment of a `text/plain` body
decides whether the body is one of parameters, a multipart body may change the announced
length while it is read, and a body longer than announced is handed over only if a
segment ends at the announced length.

* `onData_kept`, `onData_line`, `onData_body`, `onData_over`: what `onData` does, one
  equation for each place in a request.
* `onData_append`: the rest of a segment may as well come in a segment of its own.
* `receive_segments`: any cut gives the request that one segment gives.
-/

namespace Ph5Firmware

open ByteText

namespace AsyncWebServerRequest

variable {request : AsyncWebServerRequest}

/-! ## A piece of a body -/

/-- Reading a piece of a body once its kind is known. -/
def readBody (request : AsyncWebServerRequest) (buf : List UInt8) : AsyncWebServerRequest :=
  if request.isPlainPost && request.needParse then buf.foldl plainPostByte request
  else request.countBytes buf.length

theorem readBody_same (request : AsyncWebServerRequest) (buf : List UInt8) :
    SameBody request (request.readBody buf) ∧
      (request.readBody buf).parsedLength = request.parsedLength + buf.length := by
  unfold readBody
  by_cases hparsed : (request.isPlainPost && request.needParse) = true
  · rw [if_pos hparsed]
    exact plainPost_same request buf
  · rw [if_neg hparsed]
    exact ⟨⟨rfl, rfl, rfl, rfl, rfl, rfl⟩, rfl⟩

theorem readBody_append (request : AsyncWebServerRequest) (first second : List UInt8) :
    request.readBody (first ++ second) = (request.readBody first).readBody second := by
  obtain ⟨hsame, -⟩ := readBody_same request first
  have hneed : (request.readBody first).needParse = request.needParse := by
    unfold needParse
    rw [hsame.handler]
  by_cases hparsed : (request.isPlainPost && request.needParse) = true
  · have hlater : ((request.readBody first).isPlainPost &&
        (request.readBody first).needParse) = true := by
      rw [hsame.isPlainPost, hneed]
      exact hparsed
    calc request.readBody (first ++ second)
        = (first ++ second).foldl plainPostByte request := if_pos hparsed
      _ = second.foldl plainPostByte (first.foldl plainPostByte request) := List.foldl_append
      _ = second.foldl plainPostByte (request.readBody first) := by
          rw [readBody, if_pos hparsed]
      _ = (request.readBody first).readBody second := (if_pos hlater).symm
  · have hlater : ¬ ((request.readBody first).isPlainPost &&
        (request.readBody first).needParse) = true := by
      rw [hsame.isPlainPost, hneed]
      exact hparsed
    calc request.readBody (first ++ second)
        = request.countBytes (first ++ second).length := if_neg hparsed
      _ = (request.countBytes first.length).countBytes second.length := by
          rw [List.length_append]
          simp only [countBytes, Nat.add_assoc]
      _ = (request.readBody first).countBytes second.length := by
          rw [readBody, if_neg hparsed]
      _ = (request.readBody first).readBody second := (if_neg hlater).symm

/-- The kind of a body as its first segment decides it, unless it is `text/plain`. -/
def classified (request : AsyncWebServerRequest) : AsyncWebServerRequest :=
  if startsWith request.contentType "application/x-www-form-urlencoded" then
    { request with isPlainPost := true }
  else request

theorem classify_eq (htext : equals request.contentType "text/plain" = false)
    (buf : List UInt8) : request.classify buf = request.classified := by
  unfold classify classified
  rw [htext]
  simp only [Bool.false_and, Bool.false_eq_true, if_false]

theorem classified_fields (request : AsyncWebServerRequest) :
    request.classified.parseState = request.parseState ∧
      request.classified.contentType = request.contentType ∧
      request.classified.contentLength = request.contentLength ∧
      request.classified.isMultipart = request.isMultipart ∧
      request.classified.parsedLength = request.parsedLength := by
  unfold classified
  split_ifs <;> exact ⟨rfl, rfl, rfl, rfl, rfl⟩

/-- The request a piece of the body finds. -/
def opened (request : AsyncWebServerRequest) : AsyncWebServerRequest :=
  if request.parsedLength = 0 then request.classified else request

theorem opened_fields (request : AsyncWebServerRequest) :
    request.opened.parseState = request.parseState ∧
      request.opened.contentType = request.contentType ∧
      request.opened.contentLength = request.contentLength ∧
      request.opened.isMultipart = request.isMultipart ∧
      request.opened.parsedLength = request.parsedLength := by
  unfold opened
  by_cases hfirst : request.parsedLength = 0
  · rw [if_pos hfirst]
    exact request.classified_fields
  · rw [if_neg hfirst]
    exact ⟨rfl, rfl, rfl, rfl, rfl⟩

theorem parseBody_eq (hmultipart : request.isMultipart = false)
    (htext : equals request.contentType "text/plain" = false) (buf : List UInt8) :
    request.parseBody buf = request.opened.readBody buf := by
  unfold parseBody
  rw [hmultipart, if_neg Bool.false_ne_true, classify_eq htext]
  rfl

theorem classify_fields (request : AsyncWebServerRequest) (buf : List UInt8) :
    (request.classify buf).isMultipart = request.isMultipart ∧
      (request.classify buf).contentType = request.contentType ∧
      (request.classify buf).parsedLength = request.parsedLength := by
  unfold classify
  split_ifs <;> exact ⟨rfl, rfl, rfl⟩

/-- The kind of a body does not change, and its bytes are counted. -/
theorem parseBody_fields (request : AsyncWebServerRequest) (buf : List UInt8) :
    (request.parseBody buf).isMultipart = request.isMultipart ∧
      (request.parseBody buf).contentType = request.contentType ∧
      (request.parseBody buf).parsedLength = request.parsedLength + buf.length := by
  by_cases hmultipart : request.isMultipart = true
  · by_cases hparsed : request.needParse = true
    · rw [parseBody, if_pos hmultipart, if_pos hparsed]
      exact multipart_same request buf
    · rw [parseBody, if_pos hmultipart, if_neg hparsed]
      exact ⟨rfl, rfl, rfl⟩
  · have hread : request.parseBody buf =
        (if request.parsedLength = 0 then request.classify buf else request).readBody buf := by
      rw [parseBody, if_neg hmultipart]
      rfl
    rw [hread]
    split_ifs
    · obtain ⟨hkind, htype, hparsed⟩ := request.classify_fields buf
      obtain ⟨hsame, hcount⟩ := readBody_same (request.classify buf) buf
      exact ⟨hsame.isMultipart.trans hkind, hsame.contentType.trans htype, hparsed ▸ hcount⟩
    · obtain ⟨hsame, hcount⟩ := readBody_same request buf
      exact ⟨hsame.isMultipart, hsame.contentType, hcount⟩

/-- The announced length stands, and the state. -/
theorem parseBody_announced (hmultipart : request.isMultipart = false)
    (htext : equals request.contentType "text/plain" = false) (buf : List UInt8) :
    (request.parseBody buf).contentLength = request.contentLength ∧
      (request.parseBody buf).parseState = request.parseState := by
  obtain ⟨hstate, -, hlength, -, -⟩ := request.opened_fields
  obtain ⟨hsame, -⟩ := readBody_same request.opened buf
  rw [parseBody_eq hmultipart htext]
  exact ⟨hsame.contentLength.trans hlength, hsame.parseState.trans hstate⟩

/-- A piece of the body behind another one. -/
theorem parseBody_append (hmultipart : request.isMultipart = false)
    (htext : equals request.contentType "text/plain" = false) {first : List UInt8}
    (hfirst : first ≠ []) (second : List UInt8) :
    request.parseBody (first ++ second) = (request.parseBody first).parseBody second := by
  obtain ⟨-, htype, -, hparts, hlength⟩ := request.opened_fields
  obtain ⟨hsame, hcount⟩ := readBody_same request.opened first
  rw [parseBody_eq hmultipart htext, parseBody_eq hmultipart htext, readBody_append]
  have hmultipart' : (request.opened.readBody first).isMultipart = false := by
    rw [hsame.isMultipart, hparts, hmultipart]
  have htext' : equals (request.opened.readBody first).contentType "text/plain" = false := by
    rw [hsame.contentType, htype, htext]
  have hlater : (request.opened.readBody first).parsedLength ≠ 0 := by
    have hpositive := List.length_pos_iff.mpr hfirst
    rw [hcount]
    omega
  have hopened : (request.opened.readBody first).opened = request.opened.readBody first :=
    if_neg hlater
  rw [parseBody_eq hmultipart' htext', hopened]

end AsyncWebServerRequest

namespace AsyncWebServer

open AsyncWebServerRequest

variable {server : AsyncWebServer} {request : AsyncWebServerRequest}

/-! ## What a segment does -/

/-- Turns beyond the bytes of the segment are not taken. -/
theorem dataTurns_congr {turns more : ℕ} {buf : List UInt8} (hbuf : buf ≠ [])
    (hturns : buf.length ≤ turns) (hmore : buf.length ≤ more) :
    server.dataTurns turns request buf = server.dataTurns more request buf := by
  induction turns generalizing more request buf with
  | zero => exact absurd (List.length_eq_zero_iff.mp (Nat.le_zero.mp hturns)) hbuf
  | succ turns ih =>
      have hlength := List.length_pos_iff.mpr hbuf
      obtain ⟨more, rfl⟩ := Nat.exists_eq_succ_of_ne_zero (show more ≠ 0 by omega)
      have hrest : (buf.dropWhile (· ≠ 10)).tail.length + 1 ≤ buf.length ∨
          (buf.dropWhile (· ≠ 10)).tail = [] := by
        have hshorter := (List.dropWhile_suffix (· ≠ (10 : UInt8)) (l := buf)).length_le
        cases hend : buf.dropWhile (· ≠ 10) with
        | nil => exact .inr rfl
        | cons byte rest =>
            rw [hend, List.length_cons] at hshorter
            exact .inl hshorter
      rw [dataTurns, dataTurns]
      by_cases hhead : request.beforeBody = true
      · rw [if_pos hhead, if_pos hhead]
        by_cases hline : 10 ∈ buf
        · rw [if_pos hline, if_pos hline]
          dsimp only
          by_cases hnone : (buf.dropWhile (· ≠ 10)).tail = []
          · rw [if_neg (not_not.mpr hnone), if_neg (not_not.mpr hnone)]
          · have hshorter := hrest.resolve_right hnone
            rw [if_pos hnone, if_pos hnone]
            exact ih hnone (by omega) (by omega)
        · rw [if_neg hline, if_neg hline]
      · rw [if_neg hhead, if_neg hhead]

@[simp] theorem onData_nil : server.onData request [] = request := rfl

theorem onData_eq_turn {buf : List UInt8} (hbuf : buf ≠ []) :
    server.onData request buf = server.dataTurns (buf.length + 1) request buf :=
  dataTurns_congr hbuf (Nat.le_refl _) (Nat.le_succ _)

/-- A segment of the head without a line end. -/
theorem onData_kept (hhead : request.beforeBody = true) {buf : List UInt8} (hbuf : buf ≠ [])
    (hline : 10 ∉ buf) : server.onData request buf = request.keep buf := by
  rw [onData_eq_turn hbuf, dataTurns, if_pos hhead, if_neg hline]

/-- A line of the head that ends, and what follows it. -/
theorem onData_line (hhead : request.beforeBody = true) {line : List UInt8} (hline : 10 ∉ line)
    (rest : List UInt8) :
    server.onData request (line ++ 10 :: rest) =
      server.onData (server.parseLine (request.completeLine line)) rest := by
  have hnone : ∀ byte ∈ line, decide (byte ≠ 10) = true := by
    intro byte hmem
    rw [decide_eq_true_eq]
    rintro rfl
    exact hline hmem
  have htake : (line ++ 10 :: rest).takeWhile (· ≠ 10) = line := by
    rw [List.takeWhile_append_of_pos hnone, List.takeWhile_cons_of_neg (by simp), List.append_nil]
  have hdrop : ((line ++ 10 :: rest).dropWhile (· ≠ 10)).tail = rest := by
    rw [List.dropWhile_append_of_pos hnone, List.dropWhile_cons_of_neg (by simp), List.tail_cons]
  have hbuf : line ++ 10 :: rest ≠ [] := by simp
  rw [onData_eq_turn hbuf, dataTurns, if_pos hhead, if_pos (by simp), htake, hdrop]
  by_cases hrest : rest = []
  · simp only [hrest, ne_eq, not_true_eq_false, if_false, onData_nil]
  · simp only [ne_eq, hrest, not_false_eq_true, if_true]
    apply dataTurns_congr hrest _ (Nat.le_refl _)
    rw [List.length_append, List.length_cons]
    omega

theorem onData_body (hbody : request.parseState = .reqBody) {buf : List UInt8}
    (hbuf : buf ≠ []) : server.onData request buf = request.onBody buf := by
  have hhead : ¬ request.beforeBody = true := by
    unfold beforeBody
    rw [hbody]
    decide
  rw [onData_eq_turn hbuf, dataTurns, if_neg hhead, if_pos hbody]

/-- After its end or its failure a request reads no more. -/
theorem onData_over (hhead : ¬ request.beforeBody = true) (hbody : request.parseState ≠ .reqBody)
    (buf : List UInt8) : server.onData request buf = request := by
  by_cases hbuf : buf = []
  · rw [hbuf, onData_nil]
  · rw [onData_eq_turn hbuf, dataTurns, if_neg hhead, if_neg hbody]

/-! ## Cutting a segment in two -/

/-- The bodies for which the cut makes no difference. -/
structure Settled (request : AsyncWebServerRequest) : Prop where
  notMultipart : request.parsedLength ≠ 0 → request.isMultipart = false
  notText : request.parsedLength ≠ 0 → equals request.contentType "text/plain" = false
  /-- No more of the body has come than was announced. -/
  within : request.parsedLength ≤ request.contentLength

theorem keep_eq {buf : List UInt8} (hbuf : buf ≠ []) (hnul : 0 ∉ buf) :
    request.keep buf = { request with temp := request.temp ++ buf } := by
  have hinit : 0 ∉ buf.dropLast := fun hmem => hnul ((List.dropLast_prefix buf).subset hmem)
  unfold keep
  rw [List.getLast?_eq_some_getLast hbuf]
  simp only [Text.upTo_eq_self hinit, List.append_assoc, List.dropLast_append_getLast hbuf]

theorem keep_append {first second : List UInt8} (hfirst : first ≠ []) (hsecond : second ≠ [])
    (hnul : 0 ∉ first ++ second) :
    (request.keep first).keep second = request.keep (first ++ second) := by
  rw [List.mem_append, not_or] at hnul
  rw [keep_eq hfirst hnul.1, keep_eq hsecond hnul.2,
    keep_eq (by simp [hfirst]) (by simp [hnul.1, hnul.2]), List.append_assoc]

theorem keep_completeLine {first line : List UInt8} (hfirst : first ≠ [])
    (hnul : 0 ∉ first ++ line) :
    (request.keep first).completeLine line = request.completeLine (first ++ line) := by
  rw [List.mem_append, not_or] at hnul
  rw [keep_eq hfirst hnul.1]
  unfold completeLine
  rw [Text.upTo_append_of_not_mem hnul.1, List.append_assoc]

theorem onBody_fields (request : AsyncWebServerRequest) (buf : List UInt8) :
    (request.onBody buf).isMultipart = (request.parseBody buf).isMultipart ∧
      (request.onBody buf).contentType = (request.parseBody buf).contentType ∧
      (request.onBody buf).parsedLength = (request.parseBody buf).parsedLength ∧
      (request.onBody buf).contentLength = (request.parseBody buf).contentLength := by
  unfold onBody
  dsimp only
  split_ifs <;> exact ⟨rfl, rfl, rfl, rfl⟩

theorem Settled.of_onBody {buf : List UInt8} (hsettled : Settled (request.onBody buf))
    (hbuf : buf ≠ []) :
    request.isMultipart = false ∧ equals request.contentType "text/plain" = false ∧
      request.parsedLength + buf.length ≤ request.contentLength := by
  obtain ⟨hmultipart, htext, hwithin⟩ := hsettled
  obtain ⟨hkind, htype, hparsed, hlength⟩ := onBody_fields request buf
  obtain ⟨hkind', htype', hcount⟩ := request.parseBody_fields buf
  rw [hparsed, hcount] at hmultipart htext hwithin
  have hsome : request.parsedLength + buf.length ≠ 0 := by
    have hpositive := List.length_pos_iff.mpr hbuf
    omega
  replace hmultipart := hmultipart hsome
  replace htext := htext hsome
  rw [hkind, hkind'] at hmultipart
  rw [htype, htype'] at htext
  obtain ⟨hannounced, -⟩ := parseBody_announced hmultipart htext buf
  rw [hlength, hannounced] at hwithin
  exact ⟨hmultipart, htext, hwithin⟩

theorem onBody_append (hbody : request.parseState = .reqBody) {first second : List UInt8}
    (hfirst : first ≠ []) (hsecond : second ≠ [])
    (hsettled : Settled (request.onBody (first ++ second))) :
    request.onBody (first ++ second) = server.onData (request.onBody first) second := by
  obtain ⟨hmultipart, htext, hwithin⟩ := hsettled.of_onBody (by simp [hfirst])
  obtain ⟨-, -, hcount⟩ := request.parseBody_fields first
  obtain ⟨hannounced, hstate⟩ := parseBody_announced hmultipart htext first
  -- the second piece is still to come, so the body is not complete
  have hmore := List.length_pos_iff.mpr hsecond
  have hunfinished : request.onBody first = request.parseBody first := by
    apply if_neg
    rw [hcount, hannounced]
    rw [List.length_append] at hwithin
    omega
  rw [hunfinished, onData_body (hstate.trans hbody) hsecond, onBody, onBody,
    parseBody_append hmultipart htext hfirst]

theorem keep_beforeBody (buf : List UInt8) :
    (request.keep buf).beforeBody = request.beforeBody := by
  unfold keep
  cases buf.getLast? <;> rfl

/-- A piece of the head without a line end, and the next piece. -/
theorem onData_keep_append (hhead : request.beforeBody = true) {first second : List UInt8}
    (hfirst : first ≠ []) (hsecond : second ≠ []) (hline : 10 ∉ first)
    (hnul : 0 ∉ first ++ second) :
    server.onData request (first ++ second) = server.onData (request.keep first) second := by
  have hhead' : (request.keep first).beforeBody = true := (keep_beforeBody first).trans hhead
  by_cases hlater : 10 ∈ second
  · obtain ⟨line, rest, rfl, hnone⟩ := List.eq_append_cons_of_mem hlater
    have hnul' : 0 ∉ first ++ line := fun hmem => hnul (by
      rw [← List.append_assoc]
      exact List.mem_append_left _ hmem)
    rw [← List.append_assoc, onData_line hhead (by simp [hline, hnone]), onData_line hhead' hnone,
      keep_completeLine hfirst hnul']
  · rw [onData_kept hhead (by simp [hfirst]) (by simp [hline, hlater]),
      onData_kept hhead' hsecond hlater, keep_append hfirst hsecond hnul]

/-- **The rest of a segment may as well come in a segment of its own.** -/
theorem onData_append {first second : List UInt8} (hnul : 0 ∉ first ++ second)
    (hsettled : Settled (server.onData request (first ++ second))) :
    server.onData request (first ++ second) =
      server.onData (server.onData request first) second := by
  induction hlength : first.length using Nat.strong_induction_on generalizing request first with
  | _ length ih =>
      by_cases hfirst : first = []
      · rw [hfirst, List.nil_append, onData_nil]
      by_cases hsecond : second = []
      · rw [hsecond, List.append_nil, onData_nil]
      have hboth : first ++ second ≠ [] := by simp [hfirst]
      by_cases hhead : request.beforeBody = true
      · by_cases hline : 10 ∈ first
        · obtain ⟨line, rest, rfl, hnone⟩ := List.eq_append_cons_of_mem hline
          rw [List.append_assoc, List.cons_append] at hnul hsettled ⊢
          rw [onData_line hhead hnone] at hsettled ⊢
          rw [onData_line hhead hnone]
          refine ih rest.length ?_ (fun hmem => hnul ?_) hsettled rfl
          · rw [← hlength, List.length_append, List.length_cons]
            omega
          · exact List.mem_append_right line (List.mem_cons_of_mem 10 hmem)
        · rw [onData_kept hhead hfirst hline]
          exact onData_keep_append hhead hfirst hsecond hline hnul
      · by_cases hbody : request.parseState = .reqBody
        · rw [onData_body hbody hboth] at hsettled ⊢
          rw [onData_body hbody hfirst]
          exact onBody_append hbody hfirst hsecond hsettled
        · rw [onData_over hhead hbody, onData_over hhead hbody, onData_over hhead hbody]

/-- **How TCP cuts a request into segments makes no difference.** -/
theorem receive_segments (server : AsyncWebServer) (request : AsyncWebServerRequest)
    (segments : List (List UInt8)) (hnul : 0 ∉ segments.flatten)
    (hsettled : Settled (server.onData request segments.flatten)) :
    server.receive request segments = server.onData request segments.flatten := by
  induction segments generalizing request with
  | nil => rfl
  | cons segment rest ih =>
      rw [List.flatten_cons] at hnul hsettled ⊢
      have happend := onData_append hnul hsettled
      rw [happend] at hsettled ⊢
      exact ih _ (fun hmem => hnul (List.mem_append_right segment hmem)) hsettled

/-- A body of parameters, cut inside a header line and inside the body. -/
theorem postedForm_segments :
    let server : AsyncWebServer := { handlers := [], onNotFound := true }
    let segments := ["POST / HTTP/1.1\nContent-Type: application/x-www",
      "-form-urlencoded\nContent-Length: 3\n\na", "=b"].map ofString
    server.receive .new segments = server.onData .new segments.flatten :=
  receive_segments _ _ _ (by decide +kernel)
    ⟨fun _ => by decide +kernel, fun _ => by decide +kernel, by decide +kernel⟩

end AsyncWebServer

end Ph5Firmware
