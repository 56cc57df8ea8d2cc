import Switchboard.Proofs.Json.Sequence
import Switchboard.Proofs.Wire.Anonymous

/-!
# Messages among other values

A message can be read as a text of its own or as a value in a larger text. A frame is a record of
values, so it is read in the same way wherever it stands (`Envelope.local_read`), and whether a text
is a frame is a matter of the one value in it (`readEnvelope_eq_ok_iff`).

A list of texts is accepted with the messages that its texts are (`listOfJson_of_decode`). If one of
them is a value but no message, the list is refused (`listOfJson_of_refused`); the texts before it
have to be values for that. Otherwise an open bracket of one text could be closed by another, and
together they could be a list of other messages.
-/

namespace Switchboard

open Json

namespace Envelope

theorem local_read : read.Local := ofValues.local_read (List.cons_ne_nil _ _)

theorem takes_read : read.Takes fun _ _ => True := by
  intro cs e rest h
  obtain ⟨sp, w, -, hsp, hw, heq, -⟩ := (slot_payload .offer).holds_of_read h
  exact ⟨sp, w, hsp, hw, trivial, heq⟩

end Envelope

namespace Message

/-! ## A text of its own -/

theorem readEnvelope_eq_ok_iff {t : String} {e : Envelope} :
    readEnvelope t = .ok e ↔ Spaced t.toList ∧ alone Envelope.read t.toList = .ok e := by
  rw [← Envelope.local_read.readWhole?_eq_ok_iff Envelope.takes_read, readEnvelope]
  cases readWhole? Envelope.read t <;> simp

theorem meaning_eq_ok_iff {e : Envelope} {m : Message} :
    meaning e = .ok m ↔ e.toMessage none = .ok m := by
  rw [meaning]
  cases e.toMessage none <;> simp

/-- What a text comes to is what the value in it comes to. -/
theorem decode_eq_ok_iff {t : String} {m : Message} :
    decode t = .ok m ↔ Spaced t.toList ∧ understand Envelope.read meaning t.toList = .ok m := by
  constructor
  · intro h
    rw [decode] at h
    split at h
    · next e he =>
      obtain ⟨hspaced, halone⟩ := readEnvelope_eq_ok_iff.mp he
      rw [understand, halone]
      exact ⟨hspaced, by simp [Except.bind, meaning_eq_ok_iff.mpr h, Except.mapError]⟩
    · cases h
  · rintro ⟨hspaced, h⟩
    rw [understand] at h
    cases halone : alone Envelope.read t.toList with
    | error cause =>
        rw [halone] at h
        cases h
    | ok e =>
        have he : readEnvelope t = .ok e := readEnvelope_eq_ok_iff.mpr ⟨hspaced, halone⟩
        rw [halone] at h
        cases hm : meaning e with
        | error reason => simp [Except.bind, hm, Except.mapError] at h
        | ok m' =>
            obtain rfl : m' = m := by simpa [Except.bind, hm, Except.mapError] using h
            rw [decode, he]
            exact meaning_eq_ok_iff.mp hm

/-- A text is the same message whether it is read as a frame or as a value. -/
theorem ofJson_eq_ok_iff {t : String} {m : Message} : ofJson t = .ok m ↔ decode t = .ok m := by
  simp only [ofJson, decode, readEnvelope, readWhole?]
  cases hread : Envelope.read t.toList with
  | error f => simp
  | ok p =>
  obtain ⟨e, rest⟩ := p
  simp only
  cases hend : atEnd rest with
  | error f =>
      cases meaning e <;> simp
  | ok _ =>
      have hmeaning := meaning_eq_ok_iff (e := e) (m := m)
      cases hm : meaning e <;> simp_all

/-! ## Several texts in a list -/

section List

variable {ts : List String} {cs sp sp' : List Char}

/-- What comes of texts that are messages, one after the other. -/
theorem mapM_understand {ms : List Message} (h : List.Forall₂ (fun t m => decode t = .ok m) ts ms) :
    (∀ t ∈ ts.map String.toList, Spaced t) ∧
      (ts.map String.toList).mapM (understand Envelope.read meaning) = .ok ms := by
  induction h with
  | nil => exact ⟨List.forall_mem_nil _, rfl⟩
  | cons hm _ ih =>
      obtain ⟨hspaced, hcome⟩ := decode_eq_ok_iff.mp hm
      refine ⟨List.forall_mem_cons.mpr ⟨hspaced, ih.1⟩, ?_⟩
      rw [List.map_cons, List.mapM_cons, hcome, ih.2]
      rfl

/-- A list of messages is read as these messages. -/
theorem listOfJson_of_decode {ms : List Message} (h : Elements true (ts.map String.toList) cs)
    (hsp : Blank sp) (hsp' : Blank sp') (hms : List.Forall₂ (fun t m => decode t = .ok m) ts ms) :
    listOfJson (.ofList (sp ++ '[' :: (cs ++ sp'))) = .ok ms := by
  obtain ⟨hspaced, hcome⟩ := mapM_understand hms
  apply readWhole?_of_unplaced _ hsp'
  rw [String.toList_ofList, unplaced_listOf Envelope.local_read h hspaced hsp, hcome]
  rfl

/-- A list with a value that is no message is refused. -/
theorem listOfJson_of_refused {before after : List String} {t : String}
    (h : Elements true ((before ++ t :: after).map String.toList) cs)
    (hsp : Blank sp) (hbefore : ∀ u ∈ before, Spaced u.toList) (ht : Spaced t.toList)
    (hrefused : ∀ m, decode t ≠ .ok m) (sp' : List Char) :
    ∃ fault, listOfJson (.ofList (sp ++ '[' :: (cs ++ sp'))) = .error fault := by
  rw [List.map_append, List.map_cons] at h
  have hspaced : ∀ u ∈ before.map String.toList, Spaced u := List.forall_mem_map.mpr hbefore
  cases hcause : understand Envelope.read meaning t.toList with
  | ok m => exact absurd (decode_eq_ok_iff.mpr ⟨ht, hcause⟩) (hrefused m)
  | error cause =>
      obtain ⟨cause', hlist⟩ :=
        unplaced_listOf_refused Envelope.local_read h hspaced ht hcause hsp sp'
      apply exists_fault_of_unplaced
      rw [String.toList_ofList]
      exact hlist

end List

/-- **A value is a message where a frame is one**, alone and in lists. Texts in a list are the
messages that they are as frames, with any space around them; a list is refused if one of its texts
is a value but no message, provided that the texts before that one are values. -/
theorem ofJson_agrees_with_decode :
    (∀ t m, ofJson t = .ok m ↔ decode t = .ok m) ∧
      ∀ {ts : List String} {cs sp sp' : List Char}, Elements true (ts.map String.toList) cs →
        Blank sp → Blank sp' →
          (∀ ms, List.Forall₂ (fun t m => decode t = .ok m) ts ms →
            listOfJson (.ofList (sp ++ '[' :: (cs ++ sp'))) = .ok ms) ∧
          ∀ before t after, ts = before ++ t :: after → (∀ u ∈ before, Spaced u.toList) →
            Spaced t.toList → (∀ m, decode t ≠ .ok m) →
              ∃ fault, listOfJson (.ofList (sp ++ '[' :: (cs ++ sp'))) = .error fault := by
  refine ⟨fun t m => ofJson_eq_ok_iff, ?_⟩
  intro ts cs sp sp' h hsp hsp'
  constructor
  · intro ms hms
    exact listOfJson_of_decode h hsp hsp' hms
  · rintro before t after rfl hbefore ht hrefused
    exact listOfJson_of_refused h hsp hbefore ht hrefused sp'

def welcomeFrame : String := "\x7b\"type\":\"welcome\",\"id\":\"a\"\x7d"

/-- A list of a frame that is an object and one that is a list itself, and a list that has a value
between texts which is no frame. -/
theorem listOfJson_welcomeFrame :
    listOfJson "[ \x7b\"type\":\"welcome\",\"id\":\"a\"\x7d , [\"welcome\",\"b\"]]" =
        .ok [.welcome ⟨"a"⟩, .welcome ⟨"b"⟩] ∧
      ∃ fault, listOfJson "[\x7b\"type\":\"welcome\",\"id\":\"a\"\x7d,5 ,]" = .error fault := by
  have hfirst : decode welcomeFrame = .ok (.welcome ⟨"a"⟩) := by cbv
  have hsecond : decode "[\"welcome\",\"b\"]" = .ok (.welcome ⟨"b"⟩) := by cbv
  have hfive : decode "5" =
      .error (.json ⟨.unexpected (.integer 5) "struct Envelope", some ⟨1, 1⟩⟩) := by cbv
  have hgood : Elements true ([welcomeFrame, "[\"welcome\",\"b\"]"].map String.toList)
      (([' '] ++ welcomeFrame.toList) ++ ([' '] ++ ',' ::
        (([' '] ++ "[\"welcome\",\"b\"]".toList) ++ ([] ++ [']'])))) :=
    .first (.mk blank_space) (.next blank_space (.mk blank_space) (.close .nil))
  have hbad : Elements true ([welcomeFrame, "5", ""].map String.toList)
      (([] ++ welcomeFrame.toList) ++ ([] ++ ',' :: (([] ++ "5".toList) ++
        ([' '] ++ ',' :: (([] ++ "".toList) ++ ([] ++ [']'])))))) :=
    .first (.mk .nil) (.next .nil (.mk .nil) (.next blank_space (.mk .nil) (.close .nil)))
  constructor
  · exact (ofJson_agrees_with_decode.2 hgood .nil .nil).1 _ (.cons hfirst (.cons hsecond .nil))
  · refine (ofJson_agrees_with_decode.2 hbad .nil .nil).2 [welcomeFrame] "5" [""] rfl ?_ ?_ ?_
    · exact List.forall_mem_singleton.mpr (decode_eq_ok_iff.mp hfirst).1
    · exact spaced_digit rfl (by decide)
    · intro m hm
      rw [hfive] at hm
      cases hm

/-- Three texts, of which only the second is a value. In a list they are a single frame. -/
def broken : List String :=
  ["\x7b\"type\":\"welcome\",\"id\":\"a\",\"x\":[1", "2", "3]\x7d"]

/-- **A list need not be refused** because one of its texts is a value and no message. -/
theorem listOfJson_accepts_broken :
    ∃ cs, Elements true (broken.map String.toList) cs ∧ "2" ∈ broken ∧ Spaced "2".toList ∧
      (∀ m, decode "2" ≠ .ok m) ∧
      listOfJson (.ofList ('[' :: cs)) = .ok [.welcome ⟨"a"⟩] := by
  have htwo : decode "2" =
      .error (.json ⟨.unexpected (.integer 2) "struct Envelope", some ⟨1, 1⟩⟩) := by cbv
  refine ⟨_, .first (.mk .nil) (.next .nil (.mk .nil) (.next .nil (.mk .nil) (.close .nil))),
    by decide, spaced_digit rfl (by decide), ?_, by cbv⟩
  intro m hm
  rw [htwo] at hm
  cases hm

end Message

end Switchboard
