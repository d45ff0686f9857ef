import ChromiumQnx.Foundation.Snprintf

/-!
# Formatted trace lines

Several functions of the port write a line to the log: they format it into a local buffer of 256
bytes with `snprintf` and pass the returned number to `write`.  That number is the length of the
whole line, not of what the buffer holds.

`FormattedTrace` lists the sites with their formats.  At the sites that print a URL the line is
written properly exactly when the URL is short enough, and the users of `QNX_NAV_LOG_FMT`, which
print numbers only, always write what was stored.
-/

namespace ChromiumQnx

open Snprintf

/-! ## The sites -/

/-- The users of `QNX_NAV_LOG_FMT`, with what they print. -/
inductive NavLog
  /-- `WaitForRendererProcessReady`, when the process is ready and when the time is over. -/
  | processReady (rph iter : Int32)
  | processReadyTimeout (rph : Int32)
  /-- `PumpAfterNavigationClientGetInterface`. -/
  | postGetInterface (rph iter live : Int32)
  /-- `RenderFrameHostImpl`, getting the interface and sending the commit. -/
  | getInterface (rph : Int32)
  | sendCommit (rph : Int32)
  /-- `NavigationClient::CommitNavigation`. -/
  | clientCommit (pid : Int32)
  /-- `NavigationClient::Bind`. -/
  | navBind (pid : Int32)
  /-- `RenderFrameImpl::BindNavigationClient`. -/
  | bindNavClient (pid : Int32)
  /-- `ChannelPosix::OnFileCanReadWithoutBlocking`. -/
  | chanRead (pid fd : Int32)

/-- The formats of `QNX_NAV_LOG_FMT`. -/
def NavLog.pieces : NavLog → List Piece
  | .processReady rph iter =>
    [.literal "QNX:RFHI:NavClient process ready rph=", .int rph, .literal " iter=", .int iter,
      .literal "\n"]
  | .processReadyTimeout rph =>
    [.literal "QNX:RFHI:NavClient process ready timeout rph=", .int rph, .literal "\n"]
  | .postGetInterface rph iter live =>
    [.literal "QNX:RFHI:NavClient post-GetInterface pump rph=", .int rph, .literal " iter=",
      .int iter, .literal " live=", .int live, .literal "\n"]
  | .getInterface rph => [.literal "QNX:RFHI:NavClient GetInterface rph=", .int rph, .literal "\n"]
  | .sendCommit rph => [.literal "QNX:Browser:SendCommit rph=", .int rph, .literal "\n"]
  | .clientCommit pid => [.literal "QNX:NavClient:Commit pid=", .int pid, .literal "\n"]
  | .navBind pid => [.literal "QNX:Nav:Bind pid=", .int pid, .literal "\n"]
  | .bindNavClient pid => [.literal "QNX:RFI:BindNavClient pid=", .int pid, .literal "\n"]
  | .chanRead pid fd =>
    [.literal "QNX:Mojo:ChanRead pid=", .int pid, .literal " fd=", .int fd, .literal "\n"]

/-- The formatted traces. -/
inductive FormattedTrace
  /-- `URLRequest::Start`. -/
  | urlRequestStart (url : List UInt8)
  /-- `CorsURLLoader::Start`. -/
  | corsURLLoaderStart (url : List UInt8) (mode : Int32)
  /-- `DocumentLoader::CommitNavigation`. -/
  | commitNavigation (url : List UInt8) (bodyLoader : Bool)
  | qnxNavLogFmt (log : NavLog)

namespace FormattedTrace

/-- The formats. -/
def pieces : FormattedTrace → List Piece
  | .urlRequestStart url => [.literal "QNX:UR:Start url=", .str url, .literal "\n"]
  | .corsURLLoaderStart url mode =>
    [.literal "QNX:CUL:Start url=", .str url, .literal " mode=", .int mode, .literal "\n"]
  | .commitNavigation url bodyLoader =>
    [.literal "QNX:DL:CommitNav url=", .str url, .literal " body=",
      .int (if bodyLoader then 1 else 0), .literal "\n"]
  | .qnxNavLogFmt log => log.pieces

/-- What `snprintf` returns and stores in the buffer of 256 bytes. -/
def formatted (t : FormattedTrace) : ℤ × List UInt8 := snprintf 256 t.pieces

/-- The number of bytes passed to `write`.  `QNX_NAV_LOG_FMT` writes nothing unless the returned
number is positive. -/
def written (t : FormattedTrace) : ℕ :=
  match t with
  | .qnxNavLogFmt _ => if t.formatted.1 > 0 then toSizeT t.formatted.1 else 0
  | _ => toSizeT t.formatted.1

/-- At most the stored text is written. -/
def WritesStored (t : FormattedTrace) : Prop := t.written ≤ t.formatted.2.length

/-- The URL leaves room for the rest of the line. -/
def UrlFits : FormattedTrace → Prop
  | .urlRequestStart url => (cString url).length ≤ 237
  | .corsURLLoaderStart url mode => (cString url).length + (intText mode).length ≤ 230
  | .commitNavigation url _ => (cString url).length ≤ 226
  | .qnxNavLogFmt _ => True

/-! ## Which lines are written properly -/

/-- The texts of `QNX_NAV_LOG_FMT` fit into the buffer. -/
lemma length_navLog_lt (log : NavLog) : (format log.pieces).length < 256 := by
  have hsum : (log.pieces.map Piece.maxLength).sum ≤ 255 := by
    cases log <;> exact Nat.le_of_ble_eq_true rfl
  exact Nat.lt_succ_of_le ((length_format_le log.pieces).trans hsum)

/-- A line with a URL that is written without a test of the returned number is written properly
when the URL and the texts around it fit into the buffer. -/
lemma writesStored_iff_of_pieces {t : FormattedTrace} {before : String} {url : List UInt8}
    {after : List Piece} (hwritten : t.written = toSizeT t.formatted.1)
    (hpieces : t.pieces = .literal before :: .str url :: after) :
    t.WritesStored ↔ before.length + ((cString url).length + (format after).length) < 256 := by
  have hlength : (format t.pieces).length =
      before.length + ((cString url).length + (format after).length) := by
    rw [hpieces, length_format_cons, length_format_cons, length_text_literal, length_text_str]
  rw [WritesStored, hwritten, ← hlength]
  exact snprintf_fits_iff (by decide) (by decide)

/-- **Exactness of the trace lines.**  At every site, for every URL and all numbers, at most the
stored text is passed to `write`, if and only if the URL leaves room for the rest of the line. -/
theorem writesStored_iff (t : FormattedTrace) : t.WritesStored ↔ t.UrlFits := by
  have hnewline : "\n".length = 1 := rfl
  cases t with
  | urlRequestStart url =>
    have hstart : "QNX:UR:Start url=".length = 17 := rfl
    rw [writesStored_iff_of_pieces rfl rfl, UrlFits]
    simp only [length_format_cons, length_format_nil, length_text_literal]
    omega
  | corsURLLoaderStart url mode =>
    have hstart : "QNX:CUL:Start url=".length = 18 := rfl
    have hmode : " mode=".length = 6 := rfl
    rw [writesStored_iff_of_pieces rfl rfl, UrlFits]
    simp only [length_format_cons, length_format_nil, length_text_literal, length_text_int]
    omega
  | commitNavigation url bodyLoader =>
    have hstart : "QNX:DL:CommitNav url=".length = 21 := rfl
    have hbody : " body=".length = 6 := rfl
    have hdigit : (intText (if bodyLoader then 1 else 0)).length = 1 := by
      cases bodyLoader <;> decide
    rw [writesStored_iff_of_pieces rfl rfl, UrlFits]
    simp only [length_format_cons, length_format_nil, length_text_literal, length_text_int]
    omega
  | qnxNavLogFmt log =>
    refine iff_of_true ?_ trivial
    have hfits : toSizeT (formatted (.qnxNavLogFmt log)).1 ≤
        (formatted (.qnxNavLogFmt log)).2.length :=
      (snprintf_fits_iff (by decide) (by decide)).mpr (length_navLog_lt log)
    rw [WritesStored, written]
    split
    · exact hfits
    · exact Nat.zero_le _

/-- A URL of 300 bytes: 318 bytes are written from a buffer that holds 255 of them. -/
theorem longUrl_not_writesStored :
    ¬ WritesStored (.urlRequestStart (List.replicate 300 97)) := by
  have hstart : "QNX:UR:Start url=".length = 17 := rfl
  have hurl : (cString (List.replicate 300 97)).length = 300 := by
    rw [cString, List.takeWhile_replicate, if_pos (by decide), List.length_replicate]
  rw [writesStored_iff_of_pieces rfl rfl, hstart, hurl]
  omega

end FormattedTrace

end ChromiumQnx
