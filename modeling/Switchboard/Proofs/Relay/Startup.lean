import Switchboard.Proofs.Relay.SocketPath
import Switchboard.Relay.Pages

/-!
# Which environments a relay can be started in

How a path pattern is written is said once more, as a grammar (`PathPattern.Written`). What is read
is what the grammar has (`PathPart.written_of_readAll?`, `PathPart.readAll?_of_written`).

A relay can be started in an environment unless the path of its web socket is that of another page,
or no pattern, or one with too many names, or unless its outboxes are larger than outboxes can be.
Nothing else in the environment matters: the path begins with a slash whatever is asked for, and an
outbox holds something (`Config.isUsable_iff`).
-/

namespace Switchboard

/-! ## How a pattern is written -/

namespace PathPattern

def Plain (cs : List Char) : Prop := ∀ c ∈ cs, PathPart.isMark c = false

/-- A name is not empty and lies within a segment. -/
structure Name (cs : List Char) : Prop where
  nonempty : cs ≠ []
  plain : Plain cs
  segment : '/' ∉ cs

/-- The texts that are patterns with `n` names in them. So far the pattern has followed the paths of
`pages`, and after its first name it follows none of them. -/
inductive Written : List String → List Char → Nat → Prop
  | plain {pages : List String} {text : List Char} (htext : Plain text) : Written pages text 0
  | named {pages : List String} {text name rest : List Char} {n : Nat} (htext : Plain text)
      (hname : Name name) (hend : ∀ c ∈ rest.head?, c = '/') (hrest : Written [] rest n) :
      Written pages (text ++ ':' :: (name ++ rest)) (n + 1)
  | remainder {pages : List String} {text name : List Char} (htext : Plain text)
      (hname : Name name)
      (hplace : text.getLast? = some '/' ∨ ∃ page ∈ pages, text <+: page.toList) :
      Written pages (text ++ '*' :: name) 0

end PathPattern

namespace PathPart

open PathPattern

variable {pages : List String} {text name rest cs : List Char} {mark : Char} {p : Char → Bool}

/-! ### Texts up to a character -/

/-- A text is taken up to the first character of another kind. -/
theorem takeWhile_append (htext : ∀ c ∈ text, p c = true) (hrest : ∀ c ∈ rest.head?, p c = false) :
    (text ++ rest).takeWhile p = text := by
  rw [List.takeWhile_append_of_pos htext]
  cases rest with
  | nil => rw [List.takeWhile_nil, List.append_nil]
  | cons c rest =>
      rw [List.takeWhile_cons_of_neg (by rw [hrest c rfl]; decide), List.append_nil]

/-- What is taken ends where the rest begins. -/
theorem eq_append_of_drop {p : Char → Bool} (h : cs.drop (cs.takeWhile p).length = rest) :
    cs = cs.takeWhile p ++ rest ∧ ∀ c ∈ rest.head?, p c = false := by
  have hcs : cs.takeWhile p ++ cs.dropWhile p = cs := List.takeWhile_append_dropWhile
  have hrest : cs.dropWhile p = rest := by
    rw [← h]
    calc cs.dropWhile p
        = (cs.takeWhile p ++ cs.dropWhile p).drop (cs.takeWhile p).length := List.drop_left.symm
      _ = cs.drop (cs.takeWhile p).length := by rw [hcs]
  rw [← hrest]
  refine ⟨hcs.symm, fun c hc => ?_⟩
  have hhead := List.head?_dropWhile_not p cs
  rw [Option.mem_def.mp hc] at hhead
  simpa using hhead

theorem plain_takeWhile (cs : List Char) : Plain (cs.takeWhile fun c => !isMark c) := by
  intro c hc
  simpa using List.mem_takeWhile_imp hc

theorem isName_iff : isName cs = true ↔ cs ≠ [] ∧ Plain cs := by
  simp [isName, Plain]

theorem name_takeWhile (h : isName (cs.takeWhile (· ≠ '/')) = true) :
    Name (cs.takeWhile (· ≠ '/')) where
  nonempty := (isName_iff.mp h).1
  plain := (isName_iff.mp h).2
  segment hslash := by simpa using List.mem_takeWhile_imp hslash

/-! ### What is read -/

/-- A plain text is read as itself. -/
theorem readAll?_plain (h : Plain text) :
    readAll? pages text = some (if text.isEmpty then [] else [.literal text]) := by
  have htext : text.takeWhile (fun c => !isMark c) = text :=
    List.takeWhile_eq_self_iff.mpr fun c hc => by simp [h c hc]
  rw [readAll?]
  split
  · rw [htext]
  · next mark rest hdrop =>
    rw [htext, List.drop_length] at hdrop
    cases hdrop

/-- A name is read after the mark that begins it, up to the next slash. -/
theorem readAll?_mark (h : Plain text) (hmark : isMark mark = true) (hname : Name name)
    (hend : ∀ c ∈ rest.head?, c = '/') :
    readAll? pages (text ++ mark :: (name ++ rest)) =
      if mark = ':' then (readAll? [] rest).map fun parts => .literal text :: .named :: parts
      else if rest.isEmpty &&
          (text.getLast? = some '/' || pages.any (text.isPrefixOf ·.toList)) then
        some [.literal text, .remainder]
      else none := by
  -- the part before the mark, and the name after it
  have htext : (text ++ mark :: (name ++ rest)).takeWhile (fun c => !isMark c) = text :=
    takeWhile_append (fun c hc => by simp [h c hc]) (by simpa using hmark)
  have hsegment : (name ++ rest).takeWhile (· ≠ '/') = name := by
    refine takeWhile_append (fun c hc => ?_) (fun c hc => by simpa using hend c hc)
    simpa using fun hslash : c = '/' => hname.segment (hslash ▸ hc)
  have hisName : isName name = true := isName_iff.mpr ⟨hname.nonempty, hname.plain⟩
  rw [readAll?]
  split
  · next hdrop =>
    rw [htext, List.drop_left] at hdrop
    cases hdrop
  · next mark' rest' hdrop =>
    rw [htext, List.drop_left, List.cons.injEq] at hdrop
    obtain ⟨rfl, rfl⟩ := hdrop
    simp only [htext, hsegment, List.drop_left, hisName, Bool.not_true, Bool.false_eq_true,
      if_false]

/-- What is read is written as a pattern has to be, with as many names. -/
theorem written_of_readAll? {parts : List PathPart} (h : readAll? pages cs = some parts) :
    Written pages cs (parts.count .named) := by
  fun_induction readAll? pages cs generalizing parts
  case case1 pages cs text hdrop =>
      obtain ⟨hcs, -⟩ := eq_append_of_drop hdrop
      have hcount : parts.count .named = 0 := by
        cases h
        split <;> rfl
      rw [hcs, List.append_nil, hcount]
      exact .plain (plain_takeWhile cs)
  -- text up to a name, and what comes behind the name, where no page is followed any more
  case case3 pages cs text rest name after hisName hdrop ih =>
      obtain ⟨hcs, -⟩ := eq_append_of_drop hdrop
      have hafter : rest.drop name.length = after := rfl
      obtain ⟨hrest, hend⟩ := eq_append_of_drop hafter
      have hname : isName name = true := by simpa using hisName
      obtain ⟨parts, hread, rfl⟩ := Option.map_eq_some_iff.mp h
      rw [hcs, hrest, List.count_cons_of_ne (by simp), List.count_cons_self]
      exact .named (plain_takeWhile cs) (name_takeWhile hname) (by simpa using hend) (ih hread)
  -- text up to the remainder of the path
  case case4 pages cs text mark rest hdrop name after hisName hcolon hplace =>
      obtain ⟨hcs, hmark⟩ := eq_append_of_drop hdrop
      have hafter : rest.drop name.length = after := rfl
      obtain ⟨hrest, -⟩ := eq_append_of_drop hafter
      have hname : isName name = true := by simpa using hisName
      have hstar : mark = '*' := by simpa [isMark, hcolon] using hmark mark rfl
      rw [Bool.and_eq_true, List.isEmpty_iff] at hplace
      cases h
      rw [hcs, hrest, hplace.1, List.append_nil, hstar]
      exact .remainder (plain_takeWhile cs) (name_takeWhile hname) (by simpa using hplace.2)
  case case2 | case5 => cases h

/-- What is written as a pattern has to be is read, and no name is lost. -/
theorem readAll?_of_written {n : Nat} (h : Written pages cs n) :
    ∃ parts, readAll? pages cs = some parts ∧ parts.count .named = n := by
  induction h with
  | plain htext =>
      refine ⟨_, readAll?_plain htext, ?_⟩
      split <;> rfl
  | @named pages text name rest n htext hname hend _ ih =>
      obtain ⟨parts, hread, hcount⟩ := ih
      refine ⟨.literal text :: .named :: parts, ?_, ?_⟩
      · rw [readAll?_mark htext rfl hname hend, if_pos rfl, hread]
        rfl
      · rw [List.count_cons_of_ne (by simp), List.count_cons_self, hcount]
  | @remainder pages text name htext hname hplace =>
      -- the name is what is left of the text
      have hread : readAll? pages (text ++ '*' :: (name ++ [])) = _ :=
        readAll?_mark htext rfl hname (by simp)
      rw [List.append_nil, if_neg (by decide), if_pos (by simpa using hplace)] at hread
      exact ⟨_, hread, rfl⟩

end PathPart

/-- A path is a pattern if it can be written as one. -/
theorem PathPattern.isSome_ofPath? {pages : List String} {path : String} {cs : List Char}
    (hroot : path.toList = '/' :: cs) :
    (ofPath? pages path).isSome = true ↔ ∃ n ≤ maxNames, Written pages path.toList n := by
  rw [hroot, ofPath?, hroot]
  constructor
  · intro h
    cases hread : PathPart.readAll? pages ('/' :: cs) with
    | none => simp [hread] at h
    | some parts =>
        refine ⟨parts.count .named, ?_, PathPart.written_of_readAll? hread⟩
        -- a pattern with too many names is read, but not taken
        by_contra hmany
        simp [hread, hmany] at h
  · rintro ⟨n, hfew, hwritten⟩
    obtain ⟨parts, hread, hcount⟩ := PathPart.readAll?_of_written hwritten
    simp [hread, hcount, hfew]

/-! ## What a site has room for -/

/-- The path is that of no other page, and it is a pattern without too many names. -/
def Site.HasRoom (path : String) : Prop :=
  path ∉ fixedPaths ∧ ∃ n ≤ PathPattern.maxNames, PathPattern.Written fixedPaths path.toList n

/-- A site has room for a pattern that is not the path of another page. -/
theorem Site.isSome_ofPath? {path : String} {cs : List Char} (hroot : path.toList = '/' :: cs)
    (measured : Bool) : (ofPath? path measured).isSome = true ↔ HasRoom path := by
  rw [ofPath?, HasRoom, ← PathPattern.isSome_ofPath? hroot]
  by_cases htaken : path ∈ fixedPaths
  · rw [if_pos (List.contains_iff_mem.mpr htaken)]
    exact iff_of_false Bool.false_ne_true fun hroom => hroom.1 htaken
  · rw [if_neg fun h => htaken (List.contains_iff_mem.mp h), Option.isSome_map,
      and_iff_right htaken]

/-! ## What an environment asks for -/

namespace Config

variable (env : Environment)

/-! ### The path of the web socket -/

theorem wsPath_default {env : Environment} (h : env.text? "SIGNAL_RELAY_WS_PATH" = none) :
    (ofEnvironment env).wsPath = "/ws" := by
  simp only [ofEnvironment, h, Option.map_none, Option.getD_none]

/-- The path of a configuration is rooted. -/
theorem exists_wsPath : ∃ cs, (ofEnvironment env).wsPath.toList = '/' :: cs := by
  cases h : env.text? "SIGNAL_RELAY_WS_PATH" with
  | none => exact ⟨['w', 's'], by rw [wsPath_default h]; rfl⟩
  | some p =>
      rw [wsPath_ofEnvironment h, toList_normalizePath]
      exact exists_rooted _

theorem hasRoom_default : Site.HasRoom "/ws" := by
  have hplain : PathPattern.Plain ['/', 'w', 's'] := by simp [PathPattern.Plain, PathPart.isMark]
  exact ⟨by decide, 0, Nat.zero_le _, .plain hplain⟩

/-- Only a path that was asked for can be out of place. -/
theorem hasRoom_wsPath_iff :
    Site.HasRoom (ofEnvironment env).wsPath ↔
      ∀ p, env.text? "SIGNAL_RELAY_WS_PATH" = some p → Site.HasRoom (normalizePath p) := by
  cases h : env.text? "SIGNAL_RELAY_WS_PATH" with
  | none =>
      rw [wsPath_default h]
      exact iff_of_true hasRoom_default (by simp)
  | some p =>
      rw [wsPath_ofEnvironment h]
      exact ⟨fun hroom q hq => Option.some.inj hq ▸ hroom, fun hroom => hroom p rfl⟩

/-! ### The capacity of outboxes -/

theorem positive?_pos {v : String} {n : Nat} (h : positive? v = some n) : 0 < n := by
  simpa using (Option.filter_eq_some_iff.mp h).2

/-- A positive number that was asked for is taken, and the default otherwise. -/
theorem outboxCapacity_cases :
    (∃ v, env.text? "SIGNAL_RELAY_OUTBOUND_QUEUE" = some v ∧
        positive? v = some (ofEnvironment env).outboxCapacity) ∨
      (∀ v, env.text? "SIGNAL_RELAY_OUTBOUND_QUEUE" = some v → positive? v = none) ∧
        (ofEnvironment env).outboxCapacity = Outbox.defaultCapacity := by
  simp only [ofEnvironment]
  cases env.text? "SIGNAL_RELAY_OUTBOUND_QUEUE" with
  | none => exact .inr ⟨by simp, rfl⟩
  | some v =>
      cases hn : positive? v with
      | none => exact .inr ⟨by simpa using hn, by simp [hn]⟩
      | some n => exact .inl ⟨v, rfl, by simp [hn]⟩

theorem outboxCapacity_pos : 0 < (ofEnvironment env).outboxCapacity := by
  obtain ⟨v, -, hn⟩ | ⟨-, hdefault⟩ := outboxCapacity_cases env
  · exact positive?_pos hn
  · rw [hdefault]
    decide

/-- Only a capacity that was asked for can be too large. -/
theorem outboxCapacity_le_iff :
    (ofEnvironment env).outboxCapacity ≤ Outbox.largestCapacity ↔
      ∀ v n, env.text? "SIGNAL_RELAY_OUTBOUND_QUEUE" = some v → positive? v = some n →
        n ≤ Outbox.largestCapacity := by
  obtain ⟨v, hv, hn⟩ | ⟨hnone, hdefault⟩ := outboxCapacity_cases env
  · constructor
    · intro hle v' n hv' hn'
      obtain rfl : v = v' := Option.some.inj (hv.symm.trans hv')
      rwa [Option.some.inj (hn'.symm.trans hn)]
    · exact fun h => h v _ hv hn
  · rw [hdefault]
    refine iff_of_true (by decide) fun v n hv hn => ?_
    rw [hnone v hv] at hn
    cases hn

/-! ## Which environments can be used -/

/-- **Which environments a relay can be started in.** The path of its web socket always begins with
a slash, and an outbox always holds something. But a path that the environment gives may have no
room beside the other pages, and an outbox that it asks for may be too large. Only then the relay
cannot be started. -/
theorem isUsable_iff (env : Environment) :
    (∃ cs, (ofEnvironment env).wsPath.toList = '/' :: cs) ∧
      0 < (ofEnvironment env).outboxCapacity ∧
      ((ofEnvironment env).isUsable = true ↔
        (∀ p, env.text? "SIGNAL_RELAY_WS_PATH" = some p → Site.HasRoom (normalizePath p)) ∧
        ∀ v n, env.text? "SIGNAL_RELAY_OUTBOUND_QUEUE" = some v → positive? v = some n →
          n ≤ Outbox.largestCapacity) := by
  obtain ⟨cs, hroot⟩ := exists_wsPath env
  refine ⟨⟨cs, hroot⟩, outboxCapacity_pos env, ?_⟩
  rw [isUsable, Bool.and_eq_true, decide_eq_true_eq, Site.isSome_ofPath? hroot, hasRoom_wsPath_iff,
    outboxCapacity_le_iff]

/-- The web socket is to be where the figures are. -/
def takenPath : Environment := { bindings := [("SIGNAL_RELAY_WS_PATH", "/metrics".toUTF8)] }

def namelessStar : Environment := { bindings := [("SIGNAL_RELAY_WS_PATH", "*".toUTF8)] }

def endlessOutbox : Environment :=
  { bindings := [("SIGNAL_RELAY_OUTBOUND_QUEUE", "2305843009213693952".toUTF8)] }

def roomForEach : Environment :=
  { bindings :=
      [("SIGNAL_RELAY_WS_PATH", "ws/:room/".toUTF8), ("SIGNAL_RELAY_OUTBOUND_QUEUE", "16".toUTF8)] }

theorem isUsable_iff_takenPath :
    (ofEnvironment takenPath).isUsable = false ∧ (ofEnvironment namelessStar).isUsable = false ∧
      (ofEnvironment endlessOutbox).isUsable = false ∧
      (ofEnvironment roomForEach).isUsable = true := by
  refine ⟨?_, ?_, ?_, ?_⟩
  · refine Bool.eq_false_iff.mpr fun husable => ?_
    have htaken : takenPath.text? "SIGNAL_RELAY_WS_PATH" = some "/metrics" :=
      text?_of_lookup (by simp [takenPath])
    obtain ⟨hfree, -⟩ := ((isUsable_iff takenPath).2.2.mp husable).1 _ htaken
    rw [show normalizePath "/metrics" = "/metrics" by rfl] at hfree
    exact hfree (by decide)
  · refine Bool.eq_false_iff.mpr fun husable => ?_
    have hstar : namelessStar.text? "SIGNAL_RELAY_WS_PATH" = some "*" :=
      text?_of_lookup (by simp [namelessStar])
    obtain ⟨-, hpattern⟩ := ((isUsable_iff namelessStar).2.2.mp husable).1 _ hstar
    rw [show normalizePath "*" = "/*" by rfl, ← PathPattern.isSome_ofPath? rfl,
      show PathPattern.ofPath? Site.fixedPaths "/*" = none by cbv] at hpattern
    cases hpattern
  · refine Bool.eq_false_iff.mpr fun husable => ?_
    have hendless : endlessOutbox.text? "SIGNAL_RELAY_OUTBOUND_QUEUE" =
        some "2305843009213693952" := text?_of_lookup (by simp [endlessOutbox])
    have hnumber : positive? "2305843009213693952" = some 2305843009213693952 := by rfl
    have hle := ((isUsable_iff endlessOutbox).2.2.mp husable).2 _ _ hendless hnumber
    exact absurd hle (by decide)
  · have hnamed : roomForEach.text? "SIGNAL_RELAY_WS_PATH" = some "ws/:room/" :=
      text?_of_lookup (by simp [roomForEach])
    have hsmall : roomForEach.text? "SIGNAL_RELAY_OUTBOUND_QUEUE" = some "16" :=
      text?_of_lookup (by simp [roomForEach, List.lookup_cons])
    have hpath : normalizePath "ws/:room/" = "/ws/:room" := by rfl
    have hnumber : positive? "16" = some 16 := by rfl
    refine (isUsable_iff roomForEach).2.2.mpr ⟨?_, ?_⟩
    · intro p hp
      rw [← Option.some.inj (hnamed.symm.trans hp), hpath, Site.HasRoom,
        ← PathPattern.isSome_ofPath? rfl]
      exact ⟨by decide, by cbv⟩
    · intro v n hv hn
      rw [← Option.some.inj (hsmall.symm.trans hv), hnumber] at hn
      rw [← Option.some.inj hn]
      decide

end Config

end Switchboard
