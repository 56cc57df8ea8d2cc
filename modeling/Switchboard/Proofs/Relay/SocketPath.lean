import Mathlib.Data.List.DropRight
import Mathlib.Logic.Function.Iterate
import Switchboard.Relay.Config

/-!
# The path of the web socket

A path is normalized by cutting off blank characters first and slashes at the end second, each once.
So what is left may end in a blank character that stood before the slashes, and normalizing it again
cuts that off, too. Once no blank character is left at the end nothing changes any more; that path
is the canonical one of the text (`canonicalPath`).

The main statement says which texts are normalized to their canonical path at once, and that all
others are so after some more rounds (`Config.socketPath_settles`).
-/

namespace Switchboard

/-! ## Ends of texts -/

namespace Text

variable {p q : Char → Bool} {cs ds : List Char} {c : Char}

/-- The last character is there and satisfies `p`. -/
def EndsIn (p : Char → Bool) (cs : List Char) : Prop := ∃ ds c, cs = ds ++ [c] ∧ p c = true

theorem not_endsIn_nil (p : Char → Bool) : ¬EndsIn p [] := by
  rintro ⟨ds, c, h, -⟩
  simp at h

theorem endsIn_concat : EndsIn p (ds ++ [c]) ↔ p c = true := by
  constructor
  · rintro ⟨ds', c', h, hc⟩
    obtain ⟨-, rfl⟩ := List.concat_inj.mp (by simpa using h)
    exact hc
  · exact fun hc => ⟨ds, c, rfl, hc⟩

theorem endsIn_append (cs : List Char) (h : ds ≠ []) : EndsIn p (cs ++ ds) ↔ EndsIn p ds := by
  obtain ⟨ds, c, rfl⟩ := (List.eq_nil_or_concat' ds).resolve_left h
  rw [← List.append_assoc, endsIn_concat, endsIn_concat]

theorem endsIn_cons (c : Char) (h : ds ≠ []) : EndsIn p (c :: ds) ↔ EndsIn p ds :=
  endsIn_append [c] h

/-! ### What is dropped there -/

theorem dropTrailing_concat (p : Char → Bool) (ds : List Char) (c : Char) :
    dropTrailing p (ds ++ [c]) = if p c then dropTrailing p ds else ds ++ [c] :=
  List.rdropWhile_concat p ds c

theorem dropTrailing_isPrefix (p : Char → Bool) (cs : List Char) : dropTrailing p cs <+: cs :=
  List.rdropWhile_prefix p cs

/-- Nothing is dropped where nothing trails. -/
theorem dropTrailing_eq_self_iff : dropTrailing p cs = cs ↔ ¬EndsIn p cs := by
  obtain rfl | ⟨ds, c, rfl⟩ := List.eq_nil_or_concat' cs
  · simp [not_endsIn_nil]
  · rw [endsIn_concat, dropTrailing_concat]
    split
    · next hc =>
      refine iff_of_false ?_ (not_not_intro hc)
      intro heq
      have hlength := (dropTrailing_isPrefix p ds).length_le
      rw [heq, List.length_append, List.length_singleton] at hlength
      omega
    · next hc => exact iff_of_true rfl hc

/-- All that trails is dropped. -/
theorem not_endsIn_dropTrailing (p : Char → Bool) (cs : List Char) :
    ¬EndsIn p (dropTrailing p cs) :=
  dropTrailing_eq_self_iff.mp (List.rdropWhile_idempotent p cs)

/-- Dropping more after less is dropping more. -/
theorem dropTrailing_dropTrailing (h : ∀ c, q c = true → p c = true) (cs : List Char) :
    dropTrailing p (dropTrailing q cs) = dropTrailing p cs := by
  induction cs using List.reverseRecOn with
  | nil => rfl
  | append_singleton ds c ih =>
      rw [dropTrailing_concat q]
      split
      · next hc => rw [ih, dropTrailing_concat, if_pos (h c hc)]
      · rfl

/-- What stays in front stays, whatever is dropped behind it. -/
theorem dropTrailing_cons (hc : p c = false) (cs : List Char) :
    dropTrailing p (c :: cs) = c :: dropTrailing p cs := by
  induction cs using List.reverseRecOn with
  | nil => rw [← List.nil_append [c], dropTrailing_concat, if_neg (by simp [hc])]; rfl
  | append_singleton ds d ih =>
      rw [← List.cons_append, dropTrailing_concat, dropTrailing_concat, ih]
      split <;> rfl

theorem dropTrailing_cons_of_ne_nil (c : Char) (h : dropTrailing p cs ≠ []) :
    dropTrailing p (c :: cs) = c :: dropTrailing p cs := by
  induction cs using List.reverseRecOn with
  | nil => exact absurd rfl h
  | append_singleton ds d ih =>
      rw [dropTrailing_concat] at h ⊢
      rw [← List.cons_append, dropTrailing_concat]
      by_cases hd : p d = true
      · rw [if_pos hd] at h ⊢
        rw [if_pos hd, ih h]
      · rw [if_neg hd, if_neg hd, List.cons_append]

/-- What is dropped is the longest end of its kind. -/
theorem exists_dropTrailing (p : Char → Bool) (cs : List Char) :
    ∃ ds, cs = dropTrailing p cs ++ ds ∧ ∀ c ∈ ds, p c = true :=
  ⟨cs.rtakeWhile p, List.rdropWhile_append_rtakeWhile.symm, fun _ hc =>
    List.mem_rtakeWhile_imp hc⟩

/-- What trails is dropped first. -/
theorem dropTrailing_append (cs : List Char) (h : ∀ c ∈ ds, p c = true) :
    dropTrailing p (cs ++ ds) = dropTrailing p cs := by
  induction ds using List.reverseRecOn with
  | nil => rw [List.append_nil]
  | append_singleton ds d ih =>
      have hlast : p d = true := h d (by simp)
      rw [← List.append_assoc, dropTrailing_concat, if_pos hlast]
      exact ih fun c hc => h c (List.mem_append_left _ hc)

end Text

/-! ## Normal paths -/

namespace Config

open Text

variable {cs ds : List Char} {c : Char}

/-- A text with a slash in front of it, unless it has one; the default path in place of no text. -/
def rooted : List Char → List Char
  | [] => "/ws".toList
  | '/' :: cs => '/' :: cs
  | cs => '/' :: cs

/-- A path is the default one, rooted already, or gets its root. -/
theorem rooted_cases (cs : List Char) :
    cs = [] ∧ rooted cs = ['/', 'w', 's'] ∨ (∃ ds, cs = '/' :: ds ∧ rooted cs = cs) ∨
      ∃ c ds, cs = c :: ds ∧ c ≠ '/' ∧ rooted cs = '/' :: cs := by
  unfold rooted
  split
  · exact .inl ⟨rfl, rfl⟩
  · exact .inr (.inl ⟨_, rfl, rfl⟩)
  · next hempty hslash =>
    cases cs with
    | nil => exact (hempty rfl).elim
    | cons c ds => exact .inr (.inr ⟨c, ds, rfl, fun h => hslash ds (by rw [h]), rfl⟩)

theorem exists_rooted (cs : List Char) : ∃ ds, rooted cs = '/' :: ds := by
  obtain ⟨-, h⟩ | ⟨ds, rfl, h⟩ | ⟨c, ds, -, -, h⟩ := rooted_cases cs
  · exact ⟨_, h⟩
  · exact ⟨_, h⟩
  · exact ⟨_, h⟩

/-- What is left of a text without the blank characters around it, and then without the slashes at
its end. -/
def stripped (cs : List Char) : List Char := dropTrailing (· = '/') (trim cs)

/-- What may be cut off at the end of a path. -/
def isCut (c : Char) : Bool := isBlank c || c = '/'

/-- What is left of a text when everything is cut off that may be. -/
def essence (cs : List Char) : List Char := dropTrailing isCut (cs.dropWhile isBlank)

/-- To normalise is to strip and to root. -/
theorem normalizePath_eq (p : String) :
    normalizePath p = String.ofList (rooted (stripped p.toList)) := by
  unfold normalizePath stripped rooted
  split <;> simp_all

/-! ### Rooting -/

theorem rooted_cons (ds : List Char) : rooted ('/' :: ds) = '/' :: ds := rfl

theorem rooted_of_ne (hc : c ≠ '/') (ds : List Char) : rooted (c :: ds) = '/' :: c :: ds := by
  unfold rooted
  split <;> simp_all

theorem not_blank_of_dropWhile (h : cs.dropWhile isBlank = c :: ds) : isBlank c = false := by
  have hhead := List.head?_dropWhile_not isBlank cs
  rwa [h] at hhead

/-! ### Stripping -/

/-- A text in which nothing is cut off in front. -/
theorem stripped_path (ds : List Char) :
    stripped ('/' :: ds) = dropTrailing (· = '/') (dropTrailing isBlank ('/' :: ds)) := rfl

theorem stripped_isPrefix (cs : List Char) : stripped cs <+: cs.dropWhile isBlank :=
  (dropTrailing_isPrefix _ _).trans (dropTrailing_isPrefix _ _)

theorem not_blank_of_stripped (h : stripped cs = c :: ds) : isBlank c = false := by
  obtain ⟨rest, hrest⟩ := stripped_isPrefix cs
  rw [h, List.cons_append] at hrest
  exact not_blank_of_dropWhile hrest.symm

/-- A path ends like the text that it is made of, where the default path does not matter. -/
theorem endsIn_rooted {p : Char → Bool} (hp : p 's' = false) :
    EndsIn p (rooted cs) ↔ EndsIn p cs := by
  obtain ⟨rfl, hroot⟩ | ⟨ds, -, hroot⟩ | ⟨c, ds, rfl, -, hroot⟩ := rooted_cases cs
  · rw [hroot, show ['/', 'w', 's'] = ['/', 'w'] ++ ['s'] from rfl, endsIn_concat, hp]
    exact iff_of_false Bool.false_ne_true (not_endsIn_nil p)
  · rw [hroot]
  · rw [hroot, endsIn_cons '/' (List.cons_ne_nil c ds)]

/-- The blank character at the end stood before the slashes. -/
theorem endsIn_blank_stripped : EndsIn isBlank (stripped cs) ↔
    ∃ ds c n, isBlank c = true ∧ trim cs = ds ++ c :: List.replicate (n + 1) '/' := by
  constructor
  · rintro ⟨ds, c, hstripped, hc⟩
    obtain ⟨slashes, htrim, hslashes⟩ := exists_dropTrailing (· = '/') (trim cs)
    rw [← stripped, hstripped] at htrim
    have hreplicate : slashes = List.replicate slashes.length '/' :=
      List.eq_replicate_of_mem fun d hd => by simpa using hslashes d hd
    cases hn : slashes.length with
    | zero =>
        -- a trimmed text does not end in a blank character
        rw [List.length_eq_zero_iff.mp hn, List.append_nil] at htrim
        have hend := not_endsIn_dropTrailing isBlank (cs.dropWhile isBlank)
        exact absurd ⟨ds, c, htrim, hc⟩ hend
    | succ n =>
        refine ⟨ds, c, n, hc, ?_⟩
        rw [htrim, hreplicate, hn, List.append_assoc]
        rfl
  · rintro ⟨ds, c, n, hc, htrim⟩
    have hslash : ¬c = '/' := by
      rintro rfl
      cases hc
    have hstripped : stripped cs = ds ++ [c] := by
      rw [stripped, htrim, ← List.singleton_append, ← List.append_assoc, dropTrailing_append,
        dropTrailing_concat, if_neg (by simpa using hslash)]
      intro d hd
      simpa using List.eq_of_mem_replicate hd
    exact ⟨ds, c, hstripped, hc⟩

/-! ### One round more -/

/-- `normalizePath` on the characters of a text. -/
def normal (cs : List Char) : List Char := rooted (stripped cs)

/-- A rooted path with nothing at its end to cut is normal. -/
theorem normal_eq_self (hblank : ¬EndsIn isBlank ('/' :: ds))
    (hslash : ¬EndsIn (· = '/') ('/' :: ds)) : normal ('/' :: ds) = '/' :: ds := by
  rw [normal, stripped_path, dropTrailing_eq_self_iff.mpr hblank,
    dropTrailing_eq_self_iff.mpr hslash, rooted_cons]

/-- A path that ends in a blank character is cut down, maybe to nothing. -/
theorem normal_cut (hblank : EndsIn isBlank ('/' :: ds)) :
    normal ('/' :: ds) = ['/', 'w', 's'] ∨
      ∃ ds', normal ('/' :: ds) = '/' :: ds' ∧ ds'.length < ds.length := by
  have hprefix : stripped ('/' :: ds) <+: dropTrailing isBlank ('/' :: ds) :=
    dropTrailing_isPrefix _ _
  have hcut : dropTrailing isBlank ('/' :: ds) <+: '/' :: ds := dropTrailing_isPrefix _ _
  -- a blank at the end is cut off, so the path gets shorter
  have hless : (dropTrailing isBlank ('/' :: ds)).length < ('/' :: ds).length := by
    refine Nat.lt_of_le_of_ne hcut.length_le fun hsame => ?_
    exact dropTrailing_eq_self_iff.mp (hcut.eq_of_length hsame) hblank
  cases hstripped : stripped ('/' :: ds) with
  | nil =>
      left
      rw [normal, hstripped]
      rfl
  | cons c ds' =>
      right
      obtain ⟨rest, hrest⟩ := hprefix.trans hcut
      rw [hstripped, List.cons_append, List.cons.injEq] at hrest
      have hlength := hprefix.length_le
      rw [hstripped, List.length_cons] at hlength
      rw [List.length_cons] at hless
      refine ⟨ds', ?_, by omega⟩
      rw [normal, hstripped, hrest.1, rooted_cons]

/-- A round keeps a path unless that ends in a blank character. -/
theorem normal_eq_self_iff (hslash : ¬EndsIn (· = '/') ('/' :: ds)) :
    normal ('/' :: ds) = '/' :: ds ↔ ¬EndsIn isBlank ('/' :: ds) := by
  refine ⟨?_, fun hblank => normal_eq_self hblank hslash⟩
  intro hsame hblank
  obtain hdefault | ⟨ds', hcut, hless⟩ := normal_cut hblank
  · rw [← hsame, hdefault] at hblank
    have hend : EndsIn isBlank (['/', 'w'] ++ ['s']) := hblank
    exact absurd (endsIn_concat.mp hend) (by decide)
  · rw [hsame, List.cons.injEq] at hcut
    rw [hcut.2] at hless
    exact Nat.lt_irrefl _ hless

/-! ### The canonical path -/

theorem endsIn_isCut : EndsIn isCut cs ↔ EndsIn isBlank cs ∨ EndsIn (· = '/') cs := by
  obtain rfl | ⟨ds, c, rfl⟩ := List.eq_nil_or_concat' cs
  · simp [not_endsIn_nil]
  · simp [endsIn_concat, isCut]

/-- What a round cuts off may be cut off. -/
theorem essence_eq (cs : List Char) : essence cs = dropTrailing isCut (stripped cs) := by
  have hblank : ∀ c, isBlank c = true → isCut c = true := fun c hc => by simp [isCut, hc]
  have hslash : ∀ c : Char, decide (c = '/') = true → isCut c = true := fun c hc => by
    rw [of_decide_eq_true hc]
    rfl
  rw [stripped, dropTrailing_dropTrailing hslash, trim, dropTrailing_dropTrailing hblank, essence]

theorem essence_path (ds : List Char) : essence ('/' :: ds) = dropTrailing isCut ('/' :: ds) := rfl

/-- The path of a text when nothing more can be cut off. -/
def canonical (cs : List Char) : List Char := rooted (essence cs)

theorem not_endsIn_canonical (cs : List Char) : ¬EndsIn isCut (canonical cs) := by
  rw [canonical, endsIn_rooted rfl]
  exact not_endsIn_dropTrailing isCut _

theorem canonical_eq_self (h : ¬EndsIn isCut ('/' :: ds)) : canonical ('/' :: ds) = '/' :: ds := by
  rw [canonical, essence_path, dropTrailing_eq_self_iff.mpr h, rooted_cons]

/-- A path that ends in no slash is canonical unless it ends in a blank character. -/
theorem canonical_eq_self_iff (hslash : ¬EndsIn (· = '/') ('/' :: ds)) :
    canonical ('/' :: ds) = '/' :: ds ↔ ¬EndsIn isBlank ('/' :: ds) := by
  constructor
  · intro hsame hblank
    have hend := not_endsIn_canonical ('/' :: ds)
    rw [hsame, endsIn_isCut] at hend
    exact hend (.inl hblank)
  · intro hblank
    refine canonical_eq_self fun hcut => ?_
    exact (endsIn_isCut.mp hcut).elim hblank hslash

/-- Normalising does not change the canonical path. -/
theorem normal_canonical (cs : List Char) : normal (canonical cs) = canonical cs := by
  have hend := not_endsIn_canonical cs
  obtain ⟨ds, hds⟩ : ∃ ds, canonical cs = '/' :: ds := exists_rooted _
  rw [hds] at hend ⊢
  rw [endsIn_isCut, not_or] at hend
  exact normal_eq_self hend.1 hend.2

/-- A round leaves the canonical path as it is. -/
theorem canonical_normal (cs : List Char) : canonical (normal cs) = canonical cs := by
  rw [canonical, canonical, normal, essence_eq cs]
  obtain ⟨hnil, hroot⟩ | ⟨ds, hpath, hroot⟩ | ⟨c, ds, hbare, hc, hroot⟩ :=
    rooted_cases (stripped cs)
  · rw [hroot, hnil]
    rfl
  · rw [hroot, hpath, essence_path]
  · have hkept : isCut c = false := by
      simp [isCut, not_blank_of_stripped hbare, hc]
    have hrest := dropTrailing_cons hkept ds
    have hslash : dropTrailing isCut ('/' :: c :: ds) = '/' :: dropTrailing isCut (c :: ds) :=
      dropTrailing_cons_of_ne_nil '/' (by rw [hrest]; exact List.cons_ne_nil _ _)
    rw [hroot, hbare, essence_path, hslash, hrest, rooted_cons, rooted_of_ne hc]

/-! ### Round after round -/

/-- Whatever a path ends in, some rounds make it canonical. -/
theorem exists_iterate_normal (ds : List Char) (hslash : ¬EndsIn (· = '/') ('/' :: ds)) :
    ∃ n, normal^[n] ('/' :: ds) = canonical ('/' :: ds) := by
  -- on the length: every round that changes the path shortens it, or gives the default
  induction hlength : ds.length using Nat.strongRecOn generalizing ds with
  | _ length ih =>
      by_cases hblank : EndsIn isBlank ('/' :: ds)
      · obtain hdefault | ⟨ds', hcut, hless⟩ := normal_cut hblank
        · refine ⟨1, ?_⟩
          rw [Function.iterate_one, ← canonical_normal, hdefault]
          rfl
        · have hslash' : ¬EndsIn (· = '/') ('/' :: ds') := by
            rw [← hcut, normal, endsIn_rooted rfl]
            exact not_endsIn_dropTrailing _ _
          obtain ⟨n, hn⟩ := ih ds'.length (by omega) ds' hslash' rfl
          refine ⟨n + 1, ?_⟩
          rw [Function.iterate_succ_apply, ← canonical_normal, hcut, hn]
      · exact ⟨0, ((canonical_eq_self_iff hslash).mpr hblank).symm⟩

/-! ### Paths of configurations -/

/-- A variable that is set to a text has that text. -/
theorem text?_of_lookup {env : Environment} {name value : String}
    (h : env.bindings.lookup name = some value.toUTF8) : env.text? name = some value := by
  rw [Environment.text?, h]
  simp [String.fromUTF8?, String.fromUTF8, value.isValidUTF8]

def canonicalPath (p : String) : String := String.ofList (canonical p.toList)

theorem toList_normalizePath (p : String) : (normalizePath p).toList = normal p.toList := by
  rw [normalizePath_eq, String.toList_ofList, normal]

theorem ofList_normal (cs : List Char) :
    String.ofList (normal cs) = normalizePath (String.ofList cs) := by
  rw [normalizePath_eq, String.toList_ofList, normal]

theorem iterate_normalizePath (n : Nat) (cs : List Char) :
    normalizePath^[n] (String.ofList cs) = String.ofList (normal^[n] cs) := by
  have hround : Function.Semiconj String.ofList normal normalizePath := ofList_normal
  exact ((hround.iterate_right n) cs).symm

theorem wsPath_ofEnvironment {env : Environment} {p : String}
    (h : env.text? "SIGNAL_RELAY_WS_PATH" = some p) :
    (ofEnvironment env).wsPath = normalizePath p := by
  simp only [ofEnvironment, h, Option.map_some, Option.getD_some]

/-- **What becomes of the path of the web socket.** It begins with a slash and does not end in one,
so it is more than a slash. It ends in a blank character exactly if such a one stands before the
slashes that the text ends in. Exactly then it is not the canonical path of the text, and a relay
that is given it again does not keep it; but it comes to the canonical path after some more rounds.
-/
theorem socketPath_settles {env : Environment} {p : String}
    (h : env.text? "SIGNAL_RELAY_WS_PATH" = some p) :
    let path := (ofEnvironment env).wsPath
    (∃ cs, path.toList = '/' :: cs) ∧ path ≠ "/" ∧ ¬EndsIn (· = '/') path.toList ∧
      (EndsIn isBlank path.toList ↔ ∃ cs c n, isBlank c = true ∧
        trim p.toList = cs ++ c :: List.replicate (n + 1) '/') ∧
      (path = canonicalPath p ↔ ¬EndsIn isBlank path.toList) ∧
      (∀ env' : Environment, env'.text? "SIGNAL_RELAY_WS_PATH" = some path →
        ((ofEnvironment env').wsPath = path ↔ ¬EndsIn isBlank path.toList)) ∧
      ∃ n, normalizePath^[n] path = canonicalPath p ∧
        normalizePath (canonicalPath p) = canonicalPath p := by
  intro path
  have hpath : path = normalizePath p := wsPath_ofEnvironment h
  have hnormal : path.toList = normal p.toList := by rw [hpath, toList_normalizePath]
  -- slashes at the end go last, so none is left
  have hslash : ¬EndsIn (· = '/') path.toList := by
    rw [hnormal, normal, endsIn_rooted rfl]
    exact not_endsIn_dropTrailing _ _
  obtain ⟨cs, hcs⟩ : ∃ cs, path.toList = '/' :: cs := by
    rw [hnormal]
    exact exists_rooted _
  have hcanonical : canonicalPath p = String.ofList (canonical path.toList) := by
    rw [canonicalPath, hnormal, canonical_normal]
  rw [hcs] at hslash hcanonical
  have hofList : path = String.ofList ('/' :: cs) := by rw [← hcs, String.ofList_toList]
  have hblank : EndsIn isBlank ('/' :: cs) ↔ EndsIn isBlank (stripped p.toList) := by
    rw [← hcs, hnormal, normal, endsIn_rooted rfl]
  refine ⟨⟨cs, hcs⟩, ?_, by rwa [hcs], ?_, ?_, ?_, ?_⟩
  · intro hroot
    rw [hroot, show "/".toList = ['/'] from rfl, List.cons.injEq] at hcs
    rw [← hcs.2] at hslash
    exact hslash ⟨[], '/', rfl, rfl⟩
  · rw [hcs, hblank, endsIn_blank_stripped]
  · rw [hcs, hcanonical, hofList, String.ofList_inj, eq_comm, canonical_eq_self_iff hslash]
  · intro env' h'
    rw [wsPath_ofEnvironment h', hcs, hofList, ← ofList_normal, String.ofList_inj,
      normal_eq_self_iff hslash]
  · obtain ⟨n, hn⟩ := exists_iterate_normal cs hslash
    refine ⟨n, ?_, ?_⟩
    · rw [hcanonical, hofList, iterate_normalizePath, hn]
    · rw [canonicalPath, ← ofList_normal, normal_canonical]

/-- The slash at the end hides a blank character. -/
def hiddenBlank : Environment := { bindings := [("SIGNAL_RELAY_WS_PATH", "ws /".toUTF8)] }

theorem socketPath_settles_hiddenBlank :
    hiddenBlank.text? "SIGNAL_RELAY_WS_PATH" = some "ws /" ∧
      EndsIn isBlank (ofEnvironment hiddenBlank).wsPath.toList ∧
      (ofEnvironment hiddenBlank).wsPath ≠ "/ws" ∧ canonicalPath "ws /" = "/ws" := by
  have h : hiddenBlank.text? "SIGNAL_RELAY_WS_PATH" = some "ws /" :=
    text?_of_lookup (by simp [hiddenBlank])
  have hcanonical : canonicalPath "ws /" = "/ws" := by rfl
  obtain ⟨-, -, -, hblank, hsettled, -⟩ := socketPath_settles h
  have hend := hblank.mpr ⟨['w', 's'], ' ', 0, rfl, by rfl⟩
  rw [hcanonical] at hsettled
  exact ⟨h, hend, fun hsame => hsettled.mp hsame hend, hcanonical⟩

end Config

end Switchboard
