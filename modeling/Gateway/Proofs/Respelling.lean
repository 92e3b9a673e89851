import Mathlib.Logic.Relation
import Gateway.Proofs.Editing

/-!
# Heads that are spelled otherwise

Letter case does not count in the names of headers, nor in the words of some;
the elements of a header may stand in several of its name; and where headers of
other names stand does not matter. However often a head is spelled otherwise in
these ways, it is read alike, and what is left of it for the next hop is the
same, spelled otherwise in these ways.

* `Headers.Respelling` says in which ways a part of a head may be spelled
  otherwise, and `Headers.Respelled` which heads become each other by that;
* `Headers.Respelling.map_elements`: a part that is spelled otherwise has the
  elements that it had;
* `Headers.Respelled.filter`: to keep headers by their names makes no
  difference;
* `Headers.Respelled.read_alike`: so a head that is spelled otherwise is read
  alike, and goes on as the same.
-/

namespace Gateway

/-! ## Letter case -/

namespace Text

/-- Only the letters from `A` to `Z` have another small spelling. -/
theorem toLower_cases (c : Char) :
    c.toLower = c ∨ ∃ n < 26, c = Char.ofNat (65 + n) := by
  delta Char.toLower
  split
  · rename_i h
    have hfirst : 65 ≤ c.toNat := UInt32.le_iff_toNat_le.1 h.1
    have hlast : c.toNat ≤ 90 := UInt32.le_iff_toNat_le.1 h.2
    exact .inr ⟨c.toNat - 65, by omega,
      by rw [Nat.add_sub_cancel' hfirst, Char.ofNat_toNat]⟩
  · exact .inl rfl

theorem isBlank_toLower (c : Char) : isBlank c.toLower = isBlank c := by
  obtain h | ⟨n, hn, rfl⟩ := toLower_cases c
  · rw [h]
  · revert n
    decide

theorem toLower_eq_comma_iff {c : Char} : c.toLower = ',' ↔ c = ',' := by
  obtain h | ⟨n, hn, rfl⟩ := toLower_cases c
  · rw [h]
  · revert n
    decide

/-- Texts are cut at commas whatever the case of their letters. -/
theorem pieces_map_toLower (cs : List Char) :
    pieces ',' (cs.map Char.toLower) = (pieces ',' cs).map (List.map Char.toLower) := by
  suffices key : ∀ front : List Char,
      pieces.go ',' (front.map Char.toLower) (cs.map Char.toLower) =
        (pieces.go ',' front cs).map (List.map Char.toLower) from key []
  intro front
  fun_induction pieces.go ',' front cs with
  | case1 front =>
    rw [List.map_nil, pieces.go, List.map_singleton, List.map_reverse]
  | case2 front rest ih =>
    rw [List.map_cons, pieces.go, if_pos (toLower_eq_comma_iff.2 rfl),
      List.map_cons, List.map_reverse]
    exact congrArg _ ih
  | case3 front c rest hc ih =>
    rw [List.map_cons, pieces.go, if_neg (mt toLower_eq_comma_iff.1 hc)]
    exact ih

theorem trim_map_toLower (cs : List Char) :
    trim (cs.map Char.toLower) = (trim cs).map Char.toLower := by
  have hblank : isBlank ∘ Char.toLower = isBlank := funext isBlank_toLower
  have hstart (cs : List Char) : (cs.map Char.toLower).dropWhile isBlank =
      (cs.dropWhile isBlank).map Char.toLower := by
    rw [List.dropWhile_map, hblank]
  rw [trim, trim, trimEnd, trimEnd, trimStart, trimStart, hstart,
    ← List.map_reverse, hstart, List.map_reverse]

end Text

namespace Headers

variable {hs new : Headers} {name : String}

/-- The elements of a value in small letters are those of the value in small
letters. -/
theorem map_lower_elementsOf (value : List Char) :
    (elementsOf value).map Text.lower = elementsOf (value.map Char.toLower) := by
  have hlower : Text.lower ∘ String.ofList = String.ofList ∘ List.map Char.toLower := by
    funext cs
    rw [Function.comp_apply, Text.lower, String.toList_ofList, Function.comp_apply]
  have htrim : Text.trim ∘ List.map Char.toLower =
      List.map Char.toLower ∘ Text.trim := funext Text.trim_map_toLower
  have hkept (parts : List (List Char)) :
      (parts.map (List.map Char.toLower)).filter (· ≠ []) =
        (parts.filter (· ≠ [])).map (List.map Char.toLower) := by
    rw [List.filter_map]
    refine congrArg _ (List.filter_congr fun cs _ => ?_)
    cases cs <;> rfl
  rw [elementsOf, elementsOf, Text.pieces_map_toLower, List.map_map, hlower,
    List.map_map, htrim, ← List.map_map, ← List.map_map, hkept]

/-- **Values that are alike have elements that are alike.** -/
theorem elementsOf_alike {value other : String}
    (h : Text.alike value other = true) :
    (elementsOf value.toList).map Text.lower =
      (elementsOf other.toList).map Text.lower := by
  rw [Text.alike_iff, Text.lower, Text.lower, String.ofList_inj] at h
  rw [map_lower_elementsOf, map_lower_elementsOf, h]

theorem hasElement_eq (hs : Headers) (name word : String) :
    hs.hasElement name word =
      ((hs.elements name).map Text.lower).any (· == Text.lower word) := by
  rw [List.any_map]
  rfl

/-! ## Parts of heads -/

theorem elements_append (front back : List Header) (name : String) :
    elements ⟨front ++ back⟩ name = elements ⟨front⟩ name ++ elements ⟨back⟩ name := by
  rw [elements_eq, elements_eq, elements_eq, getAll, List.filter_append,
    List.map_append, List.flatMap_append]
  rfl

theorem hasElement_append (front back : List Header) (name word : String) :
    hasElement ⟨front ++ back⟩ name word =
      (hasElement ⟨front⟩ name word || hasElement ⟨back⟩ name word) := by
  rw [hasElement, elements_append, List.any_append]
  rfl

theorem contains_append (front back : List Header) (name : String) :
    contains ⟨front ++ back⟩ name = (contains ⟨front⟩ name || contains ⟨back⟩ name) :=
  List.any_append

theorem elements_map (spelled : String) (values : List String) (name : String) :
    elements ⟨values.map (Header.mk spelled)⟩ name =
      if Text.alike spelled name then values.flatMap fun value =>
        elementsOf value.toList else [] := by
  have hnamed : Header.named name ∘ Header.mk spelled =
      fun _ => Text.alike spelled name := rfl
  have hvalue : (fun h : Header => h.value) ∘ Header.mk spelled = id := rfl
  rw [elements_eq, getAll, List.filter_map, List.map_map, hnamed,
    hvalue, List.map_id]
  cases Text.alike spelled name with
  | false => rw [List.filter_false]; rfl
  | true => rw [List.filter_true]; rfl

theorem elements_singleton (spelled value name : String) :
    elements ⟨[⟨spelled, value⟩]⟩ name =
      if Text.alike spelled name then elementsOf value.toList else [] := by
  have h := elements_map spelled [value] name
  rwa [List.flatMap_singleton] at h

theorem contains_map (spelled : String) {values : List String}
    (hne : values ≠ []) (name : String) :
    contains ⟨values.map (Header.mk spelled)⟩ name = Text.alike spelled name := by
  obtain ⟨value, values, rfl⟩ := List.exists_cons_of_ne_nil hne
  rw [contains, List.any_map, Bool.eq_iff_iff, List.any_eq_true]
  constructor
  · rintro ⟨_, -, h⟩
    exact h
  · exact fun h => ⟨value, List.mem_cons_self, h⟩

/-! ## Other spellings -/

/-- The headers whose elements are words, in any letter case. -/
def wordNames : List String :=
  ["connection", "transfer-encoding", "expect"]

/-- The headers whose elements may stand in several. -/
def listNames : List String :=
  ["connection", "transfer-encoding", "content-length"]

/-- No element of a value is blank. -/
def Full (value : String) : Prop :=
  ∀ piece ∈ Text.pieces ',' value.toList, Text.trim piece ≠ []

instance (value : String) : Decidable (Full value) :=
  List.decidableBAll (fun piece => Text.trim piece ≠ []) (Text.pieces ',' value.toList)

theorem Full.elementsOf_ne_nil {value : String} (h : Full value) :
    elementsOf value.toList ≠ [] := by
  obtain ⟨piece, rest, hpieces⟩ :=
    List.exists_cons_of_ne_nil (Text.pieces_ne_nil ',' value.toList)
  have hpiece : Text.trim piece ≠ [] := h piece (hpieces ▸ List.mem_cons_self)
  rw [elementsOf, hpieces, List.map_cons, List.filter_cons,
    if_pos (decide_eq_true hpiece)]
  exact List.cons_ne_nil _ _

/-- A part of a head is another spelling of a part. `Passes` says which headers
may stand in either order. -/
inductive Respelling (Passes : Header → Header → Prop) :
    List Header → List Header → Prop where
  /-- The letter case of a name does not count. -/
  | name {old new value : String} : Text.alike old new = true →
      Respelling Passes [⟨old, value⟩] [⟨new, value⟩]
  /-- Nor does that of words. -/
  | words {name old new : String} : (∃ word ∈ wordNames, Text.alike name word =
      true) → Text.alike old new = true →
      Respelling Passes [⟨name, old⟩] [⟨name, new⟩]
  /-- The elements of one header may stand in several that follow one
  another. -/
  | split {name value : String} {values : List String} :
      (∃ list ∈ listNames, Text.alike name list = true) →
      Full value → (∀ value ∈ values, Full value) →
      (elementsOf value.toList = values.flatMap fun value => elementsOf value.toList) →
      Respelling Passes [⟨name, value⟩] (values.map (Header.mk name))
  /-- The order of some headers does not count. -/
  | pass {h other : Header} : Passes h other → Respelling Passes [h, other] [other, h]

/-- A head is another spelling of a head in one of its parts. -/
inductive RespelledOnce (Passes : Header → Header → Prop) :
    List Header → List Header → Prop where
  /-- What stands in front of the part and behind it is as it was. -/
  | within {old new : List Header} (front back : List Header) :
      Respelling Passes old new →
      RespelledOnce Passes (front ++ old ++ back) (front ++ new ++ back)

/-- Heads become each other by spelling parts of them otherwise. -/
def Respelled (Passes : Header → Header → Prop) (hs new : Headers) : Prop :=
  Relation.EqvGen (RespelledOnce Passes) hs.list new.list

variable {Passes : Header → Header → Prop} {old other : List Header}

namespace Respelling

/-- **A part that is spelled otherwise has the names that it had.** -/
theorem contains_eq (h : Respelling Passes old other) (name : String) :
    contains ⟨old⟩ name = contains ⟨other⟩ name := by
  cases h with
  | name halike => exact congrArg (· || false) (alike_congr halike name)
  | words => rfl
  | split _ hfull _ helements =>
    have hne : ∀ {values : List String}, values.flatMap (fun value =>
        elementsOf value.toList) ≠ [] → values ≠ [] := by
      rintro _ hne rfl
      exact hne rfl
    rw [contains_map _ (hne (helements ▸ hfull.elementsOf_ne_nil))]
    exact Bool.or_false _
  | @pass h x =>
    rw [show [h, x] = [h] ++ [x] from rfl, show [x, h] = [x] ++ [h] from rfl,
      contains_append, contains_append, Bool.or_comm]

/-- **A part that is spelled otherwise has the elements that it had**, but for
letter case, or headers have changed places. -/
theorem map_elements (h : Respelling Passes old other) {f : String → String}
    (hf : (∃ word ∈ wordNames, Text.alike name word = true) →
      ∀ value new : String, Text.alike value new = true →
      (elementsOf value.toList).map f = (elementsOf new.toList).map f) :
    (elements ⟨old⟩ name).map f = (elements ⟨other⟩ name).map f ∨
      ∃ h x, Passes h x ∧ old = [h, x] ∧ other = [x, h] := by
  cases h with
  | name halike =>
    rw [elements_singleton, elements_singleton, alike_congr halike]; exact .inl rfl
  | @words spelled value new hword halike =>
    rw [elements_singleton, elements_singleton]
    cases hnamed : Text.alike spelled name with
    | false => exact .inl rfl
    | true =>
      obtain ⟨word, hmem, hspelled⟩ := hword
      exact .inl (hf ⟨word, hmem, alike_congr hnamed word ▸ hspelled⟩ value new halike)
  | split _ _ _ helements =>
    rw [elements_singleton, elements_map, helements]; exact .inl rfl
  | pass hpasses => exact .inr ⟨_, _, hpasses, rfl, rfl⟩

/-- **To keep headers by their names** leaves another spelling of a part that is
spelled otherwise, or the same. -/
theorem filter {keep : Header → Bool}
    (hkeep : ∀ h x : Header, Text.alike h.name x.name = true → keep h = keep x)
    (h : Respelling Passes old other) :
    Respelling Passes (old.filter keep) (other.filter keep) ∨
      old.filter keep = other.filter keep := by
  -- where all headers are kept or none is, nothing is left to do
  have hwhole (kept : Bool) (hold : ∀ x ∈ old, keep x = kept)
      (hother : ∀ x ∈ other, keep x = kept) : Respelling Passes (old.filter keep)
        (other.filter keep) ∨ old.filter keep = other.filter keep := by
    cases kept with
    | true =>
      rw [List.filter_eq_self.2 hold, List.filter_eq_self.2 hother]
      exact .inl h
    | false =>
      rw [List.filter_eq_nil_iff.2 fun x hx => by rw [hold x hx]; decide,
        List.filter_eq_nil_iff.2 fun x hx => by rw [hother x hx]; decide]
      exact .inr rfl
  cases h with
  | @name spelled new value halike =>
    refine hwhole (keep ⟨new, value⟩) (List.forall_mem_singleton.2 ?_)
      (List.forall_mem_singleton.2 rfl)
    exact hkeep ⟨spelled, value⟩ ⟨new, value⟩ halike
  | @words spelled value new =>
    refine hwhole (keep ⟨spelled, new⟩) (List.forall_mem_singleton.2 ?_)
      (List.forall_mem_singleton.2 rfl)
    exact hkeep ⟨spelled, value⟩ ⟨spelled, new⟩ (Text.alike_self _)
  | @split spelled value values =>
    refine hwhole (keep ⟨spelled, value⟩) (List.forall_mem_singleton.2 rfl)
      (List.forall_mem_map.2 fun new _ => ?_)
    exact hkeep ⟨spelled, new⟩ ⟨spelled, value⟩ (Text.alike_self _)
  | @pass h x hpasses =>
    rw [List.filter_cons, List.filter_singleton, List.filter_cons,
      List.filter_singleton]
    cases keep h with
    | false => exact .inr (by cases keep x <;> rfl)
    | true =>
      cases keep x with
      | false => exact .inr rfl
      | true => exact .inl (.pass hpasses)

end Respelling

/-- Headers of two names may stand in either order. -/
def Apart (h x : Header) : Prop :=
  Text.alike h.name x.name = false

instance (h x : Header) : Decidable (Apart h x) :=
  inferInstanceAs (Decidable (_ = _))

theorem Apart.not_named {h x : Header} (hapart : Apart h x) :
    ∀ name ∈ framingNames, ¬ (h.named name = true ∧ x.named name = true) := by
  rintro name - ⟨hh, hx⟩
  have halike : Text.alike h.name x.name = true :=
    (alike_congr hh x.name).trans ((Text.alike_comm _ _).trans hx)
  rw [hapart] at halike
  cases halike

/-! ## Heads that become each other -/

namespace Respelled

/-- **What no other spelling of a part changes is the same** in heads that
become each other. -/
theorem eq_of_parts {β : Type} {f : List Header → β}
    (hf : ∀ front back old other, Respelling Passes old other →
      f (front ++ old ++ back) = f (front ++ other ++ back))
    (h : Respelled Passes hs new) : f hs.list = f new.list := by
  rw [Respelled] at h
  generalize hs.list = before at h
  generalize new.list = after at h
  induction h with
  | rel _ _ hstep =>
    obtain ⟨front, back, hpart⟩ := hstep
    exact hf front back _ _ hpart
  | refl => rfl
  | symm _ _ _ ih => exact ih.symm
  | trans _ _ _ _ _ ih₁ ih₂ => exact ih₁.trans ih₂

theorem contains_eq (h : Respelled Passes hs new) (name : String) :
    hs.contains name = new.contains name := by
  refine eq_of_parts (f := fun list => contains ⟨list⟩ name)
    (fun front back old other hpart => ?_) h
  simp only [contains_append, hpart.contains_eq]

/-- A name has the elements that it had but for letter case, if no two headers
of that name have changed places. -/
theorem map_elements
    (hpasses : ∀ h x : Header, Passes h x →
      ¬ (h.named name = true ∧ x.named name = true))
    (h : Respelled Passes hs new) {f : String → String}
    (hf : (∃ word ∈ wordNames, Text.alike name word = true) →
      ∀ value new : String, Text.alike value new = true →
      (elementsOf value.toList).map f = (elementsOf new.toList).map f) :
    (hs.elements name).map f = (new.elements name).map f := by
  refine eq_of_parts (f := fun list => (elements ⟨list⟩ name).map f)
    (fun front back old other hpart => ?_) h
  have hsame : (elements ⟨old⟩ name).map f = (elements ⟨other⟩ name).map f := by
    obtain heq | ⟨h, x, hpass, rfl, rfl⟩ := hpart.map_elements hf
    · exact heq
    · have hnone (h : Header) (hnamed : h.named name = false) :
          elements ⟨[h]⟩ name = [] :=
        (elements_singleton h.name h.value name).trans
          (if_neg (ne_true_of_eq_false hnamed))
      rw [show [h, x] = [h] ++ [x] from rfl, show [x, h] = [x] ++ [h] from rfl,
        elements_append, elements_append]
      by_cases hnamed : h.named name = true
      · rw [hnone x (Bool.eq_false_iff.2 fun hx => hpasses h x hpass ⟨hnamed, hx⟩),
          List.append_nil, List.nil_append]
      · rw [hnone h (Bool.eq_false_iff.2 hnamed), List.append_nil, List.nil_append]
  simp only [elements_append, List.map_append, hsame]

/-- They have the words that they had. -/
theorem hasElement_eq (h : Respelled Passes hs new) (name word : String) :
    hs.hasElement name word = new.hasElement name word := by
  refine eq_of_parts (f := fun list => hasElement ⟨list⟩ name word)
    (fun front back old other hpart => ?_) h
  have hsame : hasElement ⟨old⟩ name word = hasElement ⟨other⟩ name word := by
    obtain heq | ⟨h, x, -, rfl, rfl⟩ :=
      @Respelling.map_elements name _ _ _ hpart _ fun _ _ _ => elementsOf_alike
    · rw [Headers.hasElement_eq, Headers.hasElement_eq, heq]
    · rw [show [h, x] = [h] ++ [x] from rfl, show [x, h] = [x] ++ [h] from rfl,
        hasElement_append, hasElement_append, Bool.or_comm]
  simp only [hasElement_append, hsame]

/-- **To keep headers by their names** makes no difference. -/
theorem filter {keep : Header → Bool}
    (hkeep : ∀ h x : Header, Text.alike h.name x.name = true → keep h = keep x)
    (h : Respelled Passes hs new) :
    Respelled Passes ⟨hs.list.filter keep⟩ ⟨new.list.filter keep⟩ := by
  rw [Respelled] at h ⊢
  generalize hs.list = before at h ⊢
  generalize new.list = after at h ⊢
  induction h with
  | rel _ _ hstep =>
    obtain ⟨front, back, hpart⟩ := hstep
    simp only [List.filter_append]
    obtain hother | hsame := hpart.filter hkeep
    · exact .rel _ _ (.within _ _ hother)
    · rw [hsame]
      exact .refl _
  | refl => exact .refl _
  | symm _ _ _ ih => exact .symm _ _ ih
  | trans _ _ _ _ _ ih₁ ih₂ => exact .trans _ _ _ ih₁ ih₂

end Respelled

/-! ## What is read, and what goes on -/

/-- Where the codings are the same but for letter case, and the lengths are the
same, the framing is. -/
theorem declaredFraming_of_elements
    (hcoded : hs.contains "transfer-encoding" = new.contains "transfer-encoding")
    (hcodings : (hs.elements "transfer-encoding").map Text.lower =
      (new.elements "transfer-encoding").map Text.lower)
    (hlengths : hs.elements "content-length" = new.elements "content-length") :
    hs.declaredFraming = new.declaredFraming := by
  have hlast := congrArg List.getLast? hcodings
  rw [List.getLast?_map, List.getLast?_map] at hlast
  rw [declaredFraming, declaredFraming, hcoded, hlengths]
  cases hold : (hs.elements "transfer-encoding").getLast? with
  | none =>
    rw [hold, Option.map_none, eq_comm, Option.map_eq_none_iff] at hlast
    rw [hlast]
  | some last =>
    rw [hold, Option.map_some, eq_comm, Option.map_eq_some_iff] at hlast
    obtain ⟨other, hother, halike⟩ := hlast
    rw [hother]
    simp only [alike_congr (Text.alike_iff.2 halike)]

/-- Whether a header goes on, by its name: it does not always end here; it is
not among the words about the connection, unless it frames the body; and it is
no length where a transfer coding decides. -/
def stays (hs : Headers) (h : Header) : Bool :=
  !connectionBound.any (fun name => h.named name)
    && (!hs.hasElement "connection" h.name || framingNames.any (Text.alike h.name))
    && !(hs.contains "transfer-encoding" && h.named "content-length")

theorem stays_eq_of_alike (hs : Headers) {h x : Header}
    (halike : Text.alike h.name x.name = true) :
    hs.stays h = hs.stays x := by
  have hword : hs.hasElement "connection" h.name =
      hs.hasElement "connection" x.name := by
    rw [hasElement_eq, hasElement_eq, Text.alike_iff.1 halike]
  simp only [stays, hword, Header.named, alike_congr halike,
      show Text.alike h.name = Text.alike x.name from
    funext (alike_congr halike)]

/-- **What the edits leave are the headers that go on.** -/
theorem list_stripped (hs : Headers) :
    hs.stripConnectionBound.dropOverriddenLength.list = hs.list.filter hs.stays := by
  have hlisted (h : Header) : (hs.listedAsBound.any fun name => h.named name) =
      (hs.hasElement "connection" h.name && !framingNames.any (Text.alike h.name)) := by
    -- a word that names the header frames the body if the header does
    have hframes {word : String} (halike : Text.alike word h.name = true) :
        (!framingNames.any (Text.alike word)) =
          !framingNames.any (Text.alike h.name) := by
      rw [show Text.alike word = Text.alike h.name from funext (alike_congr halike)]
    rw [Bool.eq_iff_iff, Bool.and_eq_true, listedAsBound, List.any_eq_true,
      hasElement, List.any_eq_true]
    constructor
    · rintro ⟨word, hmem, hnamed⟩
      have halike := (Text.alike_comm word h.name).trans hnamed
      obtain ⟨helement, hfree⟩ := List.mem_filter.1 hmem
      exact ⟨⟨word, helement, halike⟩, hframes halike ▸ hfree⟩
    · rintro ⟨⟨word, helement, halike⟩, hfree⟩
      exact ⟨word, List.mem_filter.2 ⟨helement, (hframes halike).trans hfree⟩,
        (Text.alike_comm h.name word).trans halike⟩
  have hbound (h : Header) :
      (!(connectionBound ++ hs.listedAsBound).any fun name => h.named name) =
        (!connectionBound.any (fun name => h.named name) && (!hs.hasElement
          "connection" h.name || framingNames.any (Text.alike h.name))) := by
    rw [List.any_append, hlisted, Bool.not_or, Bool.not_and, Bool.not_not]
  rw [dropOverriddenLength, contains_stripConnectionBound]
  cases hcoded : hs.contains "transfer-encoding" with
  | false =>
    refine List.filter_congr fun h _ => ?_
    rw [hbound, stays, hcoded, Bool.false_and, Bool.not_false, Bool.and_true]
  | true =>
    rw [if_pos rfl, list_remove, stripConnectionBound, list_removeAll,
      List.filter_filter]
    refine List.filter_congr fun h _ => ?_
    rw [hbound, stays, hcoded, Bool.true_and, Bool.and_comm]

/-- **A head that is spelled otherwise is read alike**, whatever headers may
stand in either order, if only those that frame the body may not: the body has
the same framing, the connection goes on or not for a message of either version,
and so it is with the word to go on. And the headers that go on are the same,
spelled otherwise. -/
theorem Respelled.read_alike
    (hpasses : ∀ h x : Header, Passes h x →
      ∀ name ∈ framingNames, ¬ (h.named name = true ∧ x.named name = true))
    (h : Respelled Passes hs new) :
    hs.declaredFraming = new.declaredFraming ∧
      (∀ version, hs.keepAlive version = new.keepAlive version) ∧
      (∀ method target version, Request.expectsContinue ⟨method, target, version, hs⟩ =
        Request.expectsContinue ⟨method, target, version, new⟩) ∧
      Respelled Passes hs.stripConnectionBound.dropOverriddenLength
        new.stripConnectionBound.dropOverriddenLength := by
  have hname {name : String} (hframes : name ∈ framingNames) (h x : Header)
      (hpass : Passes h x) :=
    hpasses h x hpass name hframes
  refine ⟨?_, fun version => ?_, fun method target version => ?_, ?_⟩
  · have hcodings :=
      h.map_elements (hname List.mem_cons_self) fun _ _ _ => elementsOf_alike
    have hnoword : ¬ ∃ word ∈ wordNames, Text.alike "content-length" word =
        true := by decide
    have hlengths := h.map_elements (f := id)
        (hname (List.mem_cons_of_mem _ List.mem_cons_self)) fun hword =>
      absurd hword hnoword
    rw [List.map_id, List.map_id] at hlengths
    exact declaredFraming_of_elements (h.contains_eq _) hcodings hlengths
  · cases version with
    | http11 => exact congrArg (!·) (h.hasElement_eq _ _)
    | http10 => exact h.hasElement_eq _ _
  · exact congrArg (version == .http11 && ·) (h.hasElement_eq _ _)
  · have hstays : hs.stays = new.stays := by
      funext header
      simp only [stays, h.hasElement_eq, h.contains_eq]
    have hleft := h.filter fun _ _ => hs.stays_eq_of_alike
    rw [Respelled, list_stripped, list_stripped, ← hstays]
    exact hleft

/-- A length, a list of headers that end here, and a header that it names; in
the other spelling the list stands in two headers of other letter case, between
which there is one more header. -/
theorem Respelled.read_alike_list :
    let hs : Headers := ⟨[⟨"Content-Length", "5"⟩, ⟨"Connection", "X-A, close"⟩,
      ⟨"Host", "a"⟩, ⟨"x-a", "1"⟩]⟩
    let new : Headers := ⟨[⟨"Content-Length", "5"⟩, ⟨"connection", "X-A"⟩,
      ⟨"Host", "a"⟩, ⟨"Connection", "CLOSE"⟩,
      ⟨"x-a", "1"⟩]⟩
    Respelled Apart hs new ∧ new.declaredFraming = .ok (some (.length 5)) ∧
      new.keepAlive .http11 = false ∧
      Respelled Apart ⟨[⟨"Content-Length", "5"⟩, ⟨"Host", "a"⟩]⟩
        new.stripConnectionBound.dropOverriddenLength := by
  intro hs new
  have hsplit : RespelledOnce Apart hs.list [⟨"Content-Length", "5"⟩,
      ⟨"Connection", "X-A"⟩, ⟨"Connection", "close"⟩, ⟨"Host", "a"⟩, ⟨"x-a", "1"⟩] :=
    .within [⟨"Content-Length", "5"⟩] [⟨"Host", "a"⟩, ⟨"x-a", "1"⟩] <|
      @Respelling.split _ "Connection" "X-A, close" ["X-A", "close"]
        (by decide) (by decide) (by decide) (by decide)
  have hpass : RespelledOnce Apart _ [⟨"Content-Length", "5"⟩,
      ⟨"Connection", "X-A"⟩, ⟨"Host", "a"⟩, ⟨"Connection", "close"⟩, ⟨"x-a", "1"⟩] :=
    .within [⟨"Content-Length", "5"⟩, ⟨"Connection", "X-A"⟩] [⟨"x-a", "1"⟩] <|
      @Respelling.pass _ ⟨"Connection", "close"⟩ ⟨"Host", "a"⟩ (by decide)
  have hname : RespelledOnce Apart _ [⟨"Content-Length", "5"⟩,
      ⟨"connection", "X-A"⟩, ⟨"Host", "a"⟩, ⟨"Connection", "close"⟩, ⟨"x-a", "1"⟩] :=
    .within [⟨"Content-Length", "5"⟩] [⟨"Host", "a"⟩, ⟨"Connection", "close"⟩,
      ⟨"x-a", "1"⟩] <| @Respelling.name _ "Connection" "connection" "X-A" (by decide)
  have hwords : RespelledOnce Apart _ new.list :=
    .within [⟨"Content-Length", "5"⟩, ⟨"connection", "X-A"⟩, ⟨"Host", "a"⟩]
      [⟨"x-a", "1"⟩] <|
      @Respelling.words _ "Connection" "close" "CLOSE" (by decide) (by decide)
  have hrespelled : Respelled Apart hs new :=
    .trans _ _ _ (.rel _ _ hsplit) <| .trans _ _ _ (.rel _ _ hpass) <|
      .trans _ _ _ (.rel _ _ hname) (.rel _ _ hwords)
  obtain ⟨hframing, hkeep, -, hleft⟩ :=
    read_alike (fun _ _ => Apart.not_named) hrespelled
  refine ⟨hrespelled, hframing.symm.trans (by decide),
    (hkeep .http11).symm.trans (by decide), ?_⟩
  have hstripped : hs.stripConnectionBound.dropOverriddenLength =
      ⟨[⟨"Content-Length", "5"⟩, ⟨"Host", "a"⟩]⟩ := by
    decide
  exact hstripped ▸ hleft

end Headers

end Gateway
