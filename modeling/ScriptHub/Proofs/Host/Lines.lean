import Mathlib.Data.List.Basic
import ScriptHub.Host.Invocation
import ScriptHub.Proofs.Text.Trimming

/-!
# Reading an input line by line

The bytes of an input are taken one at a time, and a line is carried out when its end
is seen.  Here the same is told of whole lines.  What a line says is told by its bytes
up to the line feed: a carriage return in front of it is a blank like any other, which
is dropped in any case.

**Results.**
* `decode?_eq_some`: which bytes encode a text.
* `readBytes_append_return`: a carriage return at the end of a line makes no difference.
* `conclude_eq_readLines`: a session is a fold over the lines of its input.
* `feedAll_eq_readLines`: so is the part of a session that ends with a line.
-/

namespace ScriptHub

/-- A carriage return at the end of a line is a blank. -/
theorem ConsoleLine.parse_append_return (text : String) :
    parse (text ++ "\r") = parse text := by
  have hreturn : Text.isBlank '\r' = true := by decide
  have hchars : (text ++ "\r").toList = text.toList ++ ['\r'] := by
    rw [String.toList_append]
    rfl
  unfold parse
  rw [hchars, Text.trim_append_of_blank hreturn]

namespace Host

open Session

section Decoding

theorem toByteArray_eq (bytes : List UInt8) :
    (⟨bytes.toArray⟩ : ByteArray) = bytes.toByteArray := by
  apply ByteArray.ext
  rw [List.data_toByteArray]

/-- Bytes encode a text if they are those of its characters, one after the other. -/
theorem decode?_eq_some
    {bytes : List UInt8}
    {text : String} :
    decode? bytes = some text ↔
      bytes = text.toList.flatMap String.utf8EncodeChar := by
  have hencode :
      text.toByteArray =
        (text.toList.flatMap String.utf8EncodeChar).toByteArray :=
    String.utf8Encode_toList.symm
  have hbytes :
      text.toByteArray = ⟨bytes.toArray⟩ ↔
        bytes = text.toList.flatMap String.utf8EncodeChar := by
    rw [hencode, toByteArray_eq]
    constructor
    · intro h
      have hdata := congrArg ByteArray.data h
      rw [List.data_toByteArray, List.data_toByteArray] at hdata
      exact (List.toArray_inj hdata).symm
    · rintro rfl
      rfl
  unfold decode? String.fromUTF8?
  rw [← hbytes]
  split
  · rw [Option.some.injEq]
    constructor
    · rintro rfl
      rfl
    · intro h
      exact String.toByteArray_inj.mp h.symm
  · next hinvalid =>
      constructor
      · intro h
        exact absurd h (by simp)
      · intro h
        exact absurd (h ▸ text.isValidUTF8) hinvalid

/-- Only a carriage return is encoded by bytes that end with its byte. -/
theorem eq_return_of_getLast?
    {c : Char}
    (h : (String.utf8EncodeChar c).getLast? = some 13) :
    c = '\r' := by
  have hbyte : ∀ n : Nat, n < 256 → UInt8.ofNat n = 13 → n = 13 := by
    intro n hn heq
    have hnat := congrArg UInt8.toNat heq
    rw [UInt8.toNat_ofNat_of_lt' hn] at hnat
    exact hnat
  -- the last byte of a longer encoding is at least 128
  have hlast : ¬ UInt8.ofNat (c.val.toNat % 64 + 128) = 13 := by
    intro heq
    have hcode := hbyte _ (by omega) heq
    omega
  simp only [String.utf8EncodeChar] at h
  split at h
  · have hcode := hbyte _ (by omega) (Option.some.inj h)
    exact Char.ext (UInt32.toNat_inj.mp hcode)
  · split at h
    · exact absurd (Option.some.inj h) hlast
    · split at h
      · exact absurd (Option.some.inj h) hlast
      · exact absurd (Option.some.inj h) hlast

/-- A carriage return at the end belongs to the text, or to no text. -/
theorem decode?_append_return (bytes : List UInt8) :
    decode? (bytes ++ [13]) = (decode? bytes).map fun text => text ++ "\r" := by
  cases h : decode? bytes with
  | some text =>
      rw [Option.map_some, decode?_eq_some, decode?_eq_some.mp h,
        String.toList_append, List.flatMap_append]
      rfl
  | none =>
      rw [Option.map_none]
      by_contra hsome
      obtain ⟨text, htext⟩ := Option.ne_none_iff_exists'.mp hsome
      have hbytes := decode?_eq_some.mp htext
      rcases List.eq_nil_or_concat text.toList with hnil | ⟨front, c, hsplit⟩
      · rw [hnil] at hbytes
        exact absurd hbytes (by simp)
      · rw [hsplit, List.concat_eq_append, List.flatMap_append,
          List.flatMap_singleton] at hbytes
        have hlast := congrArg List.getLast? hbytes
        rw [List.getLast?_append_of_ne_nil _ (by simp),
          List.getLast?_append_of_ne_nil _ String.utf8EncodeChar_ne_nil]
          at hlast
        obtain rfl := eq_return_of_getLast? hlast.symm
        have hdecoded : decode? bytes = some (String.ofList front) := by
          rw [decode?_eq_some, String.toList_ofList]
          exact List.append_cancel_right hbytes
        rw [hdecoded] at h
        exact absurd h (by simp)

end Decoding

/-- The lines of an input, without their ends; the last one may have no end. -/
def linesOf : List UInt8 → List (List UInt8)
  | [] => []
  | byte :: rest =>
      if byte = lineFeed then
        [] :: linesOf rest
      else
        match linesOf rest with
        | [] => [[byte]]
        | line :: others => (byte :: line) :: others

section Lines

variable {line : List UInt8}

/-- A line is ended by its line feed. -/
theorem linesOf_append_feed
    (h : lineFeed ∉ line)
    (rest : List UInt8) :
    linesOf (line ++ lineFeed :: rest) = line :: linesOf rest := by
  induction line with
  | nil => simp [linesOf]
  | cons byte more ih =>
      rw [List.mem_cons, not_or] at h
      obtain ⟨hbyte, hmore⟩ := h
      rw [List.cons_append, linesOf, if_neg (Ne.symm hbyte), ih hmore]

/-- What has no line feed is one line, unless it is nothing. -/
theorem linesOf_of_not_mem
    (h : lineFeed ∉ line)
    (hne : line ≠ []) :
    linesOf line = [line] := by
  induction line with
  | nil => exact absurd rfl hne
  | cons byte more ih =>
      rw [List.mem_cons, not_or] at h
      obtain ⟨hbyte, hmore⟩ := h
      rw [linesOf, if_neg (Ne.symm hbyte)]
      cases more with
      | nil => rfl
      | cons second others => rw [ih hmore (by simp)]

end Lines

namespace Session

variable (settings : Settings)

/-- Carries out lines, one after the other, until the session has ended. -/
def readLines (session : Session) : List (List UInt8) → Session × List Output
  | [] => (session, [])
  | line :: rest =>
      match session.ended with
      | some _ => (session, [])
      | none =>
          let (next, outputs) := session.readBytes settings line
          let (last, more) := next.readLines rest
          (last, outputs ++ more)

/-- Takes the rest of an input and its end. -/
def conclude
    (session : Session)
    (bytes : List UInt8) :
    ExitCode × List Output :=
  let (last, outputs) := session.feedAll settings bytes
  let (code, more) := last.finish settings
  (code, outputs ++ more)

variable {settings} {session : Session}

section Feeding

theorem feedAll_append (front back : List UInt8) :
    session.feedAll settings (front ++ back) =
      (((session.feedAll settings front).1.feedAll settings back).1,
        (session.feedAll settings front).2 ++
          ((session.feedAll settings front).1.feedAll settings back).2) := by
  induction front generalizing session with
  | nil => rfl
  | cons byte rest ih =>
      simp only [List.cons_append, feedAll, ih, List.append_assoc]

/-- A session that has ended takes nothing. -/
theorem feedAll_of_ended
    {code : ExitCode}
    (h : session.ended = some code)
    (bytes : List UInt8) :
    session.feedAll settings bytes = (session, []) := by
  induction bytes with
  | nil => rfl
  | cons byte rest ih => simp only [feedAll, feed, h, ih, List.append_nil]

theorem readLines_of_ended
    {code : ExitCode}
    (h : session.ended = some code)
    (lines : List (List UInt8)) :
    session.readLines settings lines = (session, []) := by
  cases lines with
  | nil => rfl
  | cons line rest => simp only [readLines, h]

/-- A carriage return at the end of a line makes no difference. -/
theorem readBytes_append_return (bytes : List UInt8) :
    session.readBytes settings (bytes ++ [13]) =
      session.readBytes settings bytes := by
  unfold readBytes
  rw [decode?_append_return]
  cases decode? bytes with
  | none => rfl
  | some text =>
      simp only [Option.map_some, readLine, ConsoleLine.parse_append_return]

theorem readBytes_dropReturn (line : List UInt8) :
    session.readBytes settings (dropReturn line).reverse =
      session.readBytes settings line.reverse := by
  unfold dropReturn
  split
  · rw [List.reverse_cons, readBytes_append_return]
  · rfl

/-- Carrying out a line leaves nothing unfinished, whether it ends the session or not. -/
theorem exists_readBytes_eq
    (settings : Settings)
    (machine : HostMachine)
    (bytes : List UInt8) :
    ∃ next ended outputs,
      ({ machine := machine } : Session).readBytes settings bytes =
        ({ machine := next, ended := ended }, outputs) := by
  have hclean :
      (({ machine := machine } : Session).readBytes settings bytes).1.line = [] := by
    unfold readBytes readLine
    split
    · split
      · next line _ => cases line <;> rfl
      · rfl
    · rfl
  generalize
    ({ machine := machine } : Session).readBytes settings bytes = ending at hclean
  obtain ⟨⟨next, line, ended⟩, outputs⟩ := ending
  subst hclean
  exact ⟨next, ended, outputs, rfl⟩

variable (machine : HostMachine) {pending : List UInt8}

/-- The end of a line carries out what is pending. -/
theorem feed_lineFeed (pending : List UInt8) :
    ({ machine := machine, line := pending } : Session).feed settings lineFeed =
      ({ machine := machine } : Session).readBytes settings pending.reverse := by
  simp only [feed, if_true, readBytes_dropReturn]
  rfl

theorem feed_of_ne
    {byte : UInt8}
    (h : byte ≠ lineFeed)
    (pending : List UInt8) :
    ({ machine := machine, line := pending } : Session).feed settings byte =
      ({ machine := machine, line := byte :: pending }, []) := by
  simp only [feed, h, if_false]

/-- At the end of the input what is pending is carried out as a line, if it is one. -/
theorem finish_of_pending
    (hne : pending ≠ []) :
    ({ machine := machine, line := pending } : Session).finish settings =
      (((({ machine := machine } : Session).readBytes settings
            pending.reverse).1.ended.getD .success),
        (({ machine := machine } : Session).readBytes settings
          pending.reverse).2) := by
  cases pending with
  | nil => exact absurd rfl hne
  | cons byte rest => rfl

end Feeding

section Folding

/-- What a session comes to that has read all its lines. -/
def settled (ending : Session × List Output) : ExitCode × List Output :=
  (ending.1.ended.getD .success, ending.2)

/--
A session is a fold over the lines of its input, of which the first is continued from
what is pending.
-/
theorem conclude_eq_readLines
    (machine : HostMachine)
    (pending : List UInt8)
    (unfinished : lineFeed ∉ pending)
    (bytes : List UInt8) :
    ({ machine := machine, line := pending } : Session).conclude settings bytes =
      settled
        (({ machine := machine } : Session).readLines settings
          (linesOf (pending.reverse ++ bytes))) := by
  have hreverse : lineFeed ∉ pending.reverse := by
    rw [List.mem_reverse]
    exact unfinished
  induction bytes generalizing machine pending with
  | nil =>
      rw [List.append_nil]
      by_cases hnil : pending = []
      · subst hnil
        rfl
      · rw [linesOf_of_not_mem hreverse (by simpa using hnil)]
        simp only [conclude, feedAll, finish_of_pending machine hnil, readLines,
          settled, List.nil_append, List.append_nil]
  | cons byte rest ih =>
      by_cases hend : byte = lineFeed
      · subst hend
        obtain ⟨next, ended, outputs, hread⟩ :=
          exists_readBytes_eq settings machine pending.reverse
        rw [linesOf_append_feed hreverse]
        simp only [conclude, feedAll, readLines, feed_lineFeed, hread]
        cases ended with
        | none =>
            have hrest := ih next [] (by simp) (by simp)
            simp only [conclude, settled, List.reverse_nil, List.nil_append,
              Prod.mk.injEq] at hrest ⊢
            rw [List.append_assoc, hrest.1, hrest.2]
            exact ⟨rfl, rfl⟩
        | some code =>
            rw [feedAll_of_ended rfl, readLines_of_ended rfl]
            simp [finish, settled]
      · have hrest :=
          ih machine (byte :: pending)
            (by simp [unfinished, Ne.symm hend])
            (by simp [unfinished, Ne.symm hend])
        rw [List.reverse_cons, List.append_assoc] at hrest
        simp only [conclude, feedAll, feed_of_ne machine hend,
          List.nil_append] at hrest ⊢
        exact hrest

/--
The part of a session that ends with a line is a fold over its lines, and leaves
nothing pending.
-/
theorem feedAll_eq_readLines
    (machine : HostMachine)
    (pending : List UInt8)
    (unfinished : lineFeed ∉ pending)
    {bytes : List UInt8}
    (complete : bytes = [] ∧ pending = [] ∨ bytes.getLast? = some lineFeed) :
    ({ machine := machine, line := pending } : Session).feedAll settings bytes =
      ({ machine := machine } : Session).readLines settings
        (linesOf (pending.reverse ++ bytes)) := by
  have hreverse : lineFeed ∉ pending.reverse := by
    rw [List.mem_reverse]
    exact unfinished
  induction bytes generalizing machine pending with
  | nil =>
      rcases complete with ⟨_, rfl⟩ | hlast
      · rfl
      · exact absurd hlast (by simp)
  | cons byte rest ih =>
      have hrest : rest = [] ∨ rest.getLast? = some lineFeed := by
        rcases complete with ⟨hnil, _⟩ | hlast
        · exact absurd hnil (by simp)
        · cases rest with
          | nil => exact .inl rfl
          | cons second others => exact .inr (by simpa using hlast)
      by_cases hend : byte = lineFeed
      · subst hend
        obtain ⟨next, ended, outputs, hread⟩ :=
          exists_readBytes_eq settings machine pending.reverse
        rw [linesOf_append_feed hreverse]
        simp only [feedAll, readLines, feed_lineFeed, hread]
        cases ended with
        | none =>
            have htail :=
              ih next [] (by simp)
                (hrest.imp_left fun hnil => ⟨hnil, rfl⟩) (by simp)
            rw [List.reverse_nil, List.nil_append] at htail
            rw [htail]
        | some code => rw [feedAll_of_ended rfl, readLines_of_ended rfl]
      · have htail :=
          ih machine (byte :: pending)
            (by simp [unfinished, Ne.symm hend])
            (by
              rcases hrest with rfl | hlast
              · rcases complete with ⟨hnil, _⟩ | hlast
                · exact absurd hnil (by simp)
                · exact absurd (Option.some.inj hlast) hend
              · exact .inr hlast)
            (by simp [unfinished, Ne.symm hend])
        rw [List.reverse_cons, List.append_assoc] at htail
        simp only [feedAll, feed_of_ne machine hend, List.nil_append, htail]
        rfl

end Folding
end Session
end Host
end ScriptHub
