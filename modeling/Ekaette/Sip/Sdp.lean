import Ekaette.Lib.Regex
import Ekaette.Lib.PyStr

set_option autoImplicit false

/-! # Session descriptions

`parse_remote_sdp` of `sip_bridge/wa_sip_client.py`: the media parameters of an offer. A number of
more than 4300 digits makes it raise. -/

namespace Ekaette

/-- What `parse_remote_sdp` returns. -/
structure RemoteSdp where
  mediaIp : String
  mediaPort : ℕ
  opusPayloadType : Option ℕ
  encodeRate : ℕ
  dtmfPayloadType : Option ℕ

/-- A result without any line read. -/
def RemoteSdp.initial : RemoteSdp := ⟨"", 0, none, 16000, none⟩

section Patterns

variable (py : StrMethods)

/-- A decimal digit. -/
def isDecimal (c : Char) : Bool := (py.decimal c).isSome

/-- `_CONNECTION_RE`. -/
def connectionRe : Rx :=
  .seq (.lit "c=IN".toList) (.seq (.plus PyStr.isSpace) (.seq (.lit "IP4".toList)
    (.seq (.plus PyStr.isSpace) (.group 1 (.plus (fun c => isDecimal py c || c = '.'))))))

/-- `_MEDIA_LINE_RE`. -/
def mediaLineRe : Rx :=
  .seq (.lit "m=audio".toList) (.seq (.plus PyStr.isSpace)
    (.seq (.group 1 (.plus (isDecimal py))) (.seq (.plus PyStr.isSpace)
      (.seq (.plus (fun c => !PyStr.isSpace c)) (.seq (.plus PyStr.isSpace)
        (.group 2 (.plus (fun c => isDecimal py c || PyStr.isSpace c))))))))

/-- `_RTPMAP_RE`. -/
def rtpmapRe : Rx :=
  .seq (.lit "a=rtpmap:".toList) (.seq (.group 1 (.plus (isDecimal py)))
    (.seq (.plus PyStr.isSpace) (.group 2 (.plus (fun c => !PyStr.isSpace c)))))

/-- `_FMTP_RE`. -/
def fmtpRe : Rx :=
  .seq (.lit "a=fmtp:".toList) (.seq (.group 1 (.plus (isDecimal py)))
    (.seq (.plus PyStr.isSpace) (.group 2 (.many (fun c => c ≠ '\n')))))

/-- The pattern of the Opus playback rate. -/
def maxPlaybackRateRe : Rx :=
  .seq (.lit "maxplaybackrate=".toList) (.group 1 (.plus (isDecimal py)))

end Patterns

/-- `int(match.group(i))`; `none` where `int` raises. -/
def groupInt (py : StrMethods) (m : Rx.Match) (i : ℕ) : Option ℕ :=
  intOfDigits py ((m.groups.lookup i).getD [])

/-- One `rtpmap` line. -/
def readRtpmap (py : StrMethods) (sdp : RemoteSdp) (m : Rx.Match) : Option RemoteSdp :=
  (groupInt py m 1).map (fun pt =>
    let codec := (py.lower ((m.group? 2).getD "")).toList
    if "opus/".toList.isPrefixOf codec then { sdp with opusPayloadType := some pt }
    else if "telephone-event/".toList.isPrefixOf codec then { sdp with dtmfPayloadType := some pt }
    else sdp)

/-- One `fmtp` line, for the given Opus payload type. -/
def readFmtp (py : StrMethods) (opus : ℕ) (sdp : RemoteSdp) (m : Rx.Match) : Option RemoteSdp :=
  (groupInt py m 1).bind (fun pt =>
    if pt = opus then
      match (maxPlaybackRateRe py).search ((m.groups.lookup 2).getD []) with
      | none => some sdp
      | some rate => (groupInt py rate 1).map (fun rate => { sdp with encodeRate := rate })
    else some sdp)

/-- `parse_remote_sdp`; `none` where it raises. -/
def parseRemoteSdp (py : StrMethods) (body : String) : Option RemoteSdp :=
  let text := body.toList
  let mediaIp := (((connectionRe py).search text).bind (·.group? 1)).getD ""
  let mediaPort := match (mediaLineRe py).search text with
    | none => some 0
    | some m => groupInt py m 1
  mediaPort.bind (fun mediaPort =>
    (((rtpmapRe py).findAll text).foldlM (readRtpmap py)
      { RemoteSdp.initial with mediaIp := mediaIp, mediaPort := mediaPort }).bind (fun sdp =>
        match sdp.opusPayloadType with
        | none => some sdp
        | some opus => ((fmtpRe py).findAll text).foldlM (readFmtp py opus) sdp))

example : (parseRemoteSdp .ascii
    "c=IN IP4 10.0.0.7\r\nm=audio 4000 RTP/SAVP 111 126\r\na=rtpmap:111 opus/48000/2\r\n").map
      (fun sdp => (sdp.mediaIp, sdp.mediaPort, sdp.opusPayloadType, sdp.encodeRate))
    = some ("10.0.0.7", 4000, some 111, 16000) := by
  decide +kernel

end Ekaette
