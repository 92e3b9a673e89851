import Gateway.Admin.Api
import Gateway.Proofs.Validating

/-!
# Who may see the pages

Only who brings the key of a valid configuration sees the pages, and who does
not see them learns nothing of what they show. But the key stands in a header,
and there only a value of visible characters is read as a text. Any other key is
as valid, and opens nothing.

* `Admin.token?_eq_some_iff`: what is read as a key;
* `Admin.isAuthorized_iff`: who is let in;
* `Admin.answer_of_unauthorized`: what the others hear;
* `Config.key_opens`: both for every valid configuration, and which keys open
  what they should;
* `Config.key_locks_out`: one that does not.
-/

namespace Gateway

/-! ## Visible texts -/

/-- A text that can be read in a header: its characters are a blank and those of
ASCII that leave a mark, and tabs. -/
def Text.Visible (cs : List Char) : Prop :=
  ∀ c ∈ cs, (32 ≤ c.toNat ∧ c.toNat < 127) ∨ c = '\t'

instance (cs : List Char) : Decidable (Text.Visible cs) :=
  List.decidableBAll (fun c : Char => (32 ≤ c.toNat ∧ c.toNat < 127) ∨ c = '\t') cs

namespace Admin

variable {a : Admin} {r : AdminRequest} {value : Bytes}

theorem isVisible_iff {b : UInt8} {c : Char} (h : c.toNat = b.toNat) :
    isVisible b = true ↔ (32 ≤ c.toNat ∧ c.toNat < 127) ∨ c = '\t' := by
  have htab : b = 9 ↔ c = '\t' := by
    rw [← UInt8.toNat_inj, ← h, ← Char.toNat_inj]
    rfl
  simp only [isVisible, Bool.or_eq_true, Bool.and_eq_true, decide_eq_true_eq,
    UInt8.le_iff_toNat_le, UInt8.lt_iff_toNat_lt, ← h, htab]
  rfl

/-- A character is visible if its bytes are. -/
theorem all_isVisible_utf8EncodeChar {c : Char} :
    (String.utf8EncodeChar c).all isVisible = true ↔
      (32 ≤ c.toNat ∧ c.toNat < 127) ∨ c = '\t' := by
  rcases Nat.lt_or_ge c.toNat 128 with hlow | hhigh
  · have hbyte : String.utf8EncodeChar c = [UInt8.ofNat c.toNat] := by
      simp [String.utf8EncodeChar, Nat.le_of_lt_succ hlow]
    rw [hbyte, List.all_cons, List.all_nil, Bool.and_true]
    exact isVisible_iff (UInt8.toNat_ofNat_of_lt' (Nat.lt_trans hlow (by decide))).symm
  · -- every byte of another character is at least 128
    constructor
    · intro hall
      obtain ⟨b, bs, hbytes⟩ :=
        List.exists_cons_of_ne_nil (String.utf8EncodeChar_ne_nil (c := c))
      have hmem : b ∈ String.utf8EncodeChar c := hbytes ▸ List.mem_cons_self
      have hb := List.all_eq_true.1 hall b hmem
      have hlt : b < 128 := by
        simp only [isVisible, Bool.or_eq_true, Bool.and_eq_true,
          decide_eq_true_eq, UInt8.lt_iff_toNat_lt] at hb ⊢
        rcases hb with ⟨-, hb⟩ | rfl
        · exact Nat.lt_trans hb (by decide)
        · decide
      rwa [isVisible_iff (Bytes.utf8EncodeChar_of_mem hmem hlt).2] at hb
    · rintro (⟨-, hlow⟩ | rfl)
      · omega
      · exact absurd hhigh (by decide)

/-- **The bytes of a text are visible if its characters are.** -/
theorem all_isVisible_ofText {s : String} :
    (Bytes.ofText s).all isVisible = true ↔ Text.Visible s.toList := by
  rw [Bytes.ofText_eq, List.all_flatMap, List.all_eq_true]
  exact forall₂_congr fun c _ => all_isVisible_utf8EncodeChar

/-- **What is read as a key**: the visible text behind the name of the
scheme. -/
theorem token?_eq_some_iff {token : String} :
    token? value = some token ↔
      value = Bytes.ofText ("Bearer " ++ token) ∧
      Text.Visible token.toList := by
  have hlist (s : String) : ("Bearer " ++ s).toList = scheme ++ s.toList :=
    String.toList_append
  have hscheme : Text.Visible scheme := by decide
  have hparts : ∀ cs, Text.Visible (scheme ++ cs) ↔ Text.Visible cs := fun cs => by
    rw [Text.Visible, List.forall_mem_append]
    exact and_iff_right hscheme
  rw [token?, Option.bind_eq_some_iff]
  constructor
  · rintro ⟨s, hs, htoken⟩
    obtain ⟨cs, hcs, rfl⟩ := Option.map_eq_some_iff.1 htoken
    rw [Text.after?_eq_some_iff] at hcs
    rw [valueText?, Option.ite_none_right_eq_some] at hs
    have hvalue := Bytes.ofText_of_text? hs.2
    have hall := hs.1
    rw [← hvalue, all_isVisible_ofText, hcs, hparts] at hall
    rw [← hvalue, String.toList_ofList]
    refine ⟨congrArg Bytes.ofText (String.toList_injective ?_), hall⟩
    rw [hcs, hlist, String.toList_ofList]
  · rintro ⟨rfl, hvisible⟩
    refine ⟨"Bearer " ++ token, ?_, ?_⟩
    · have hall : (Bytes.ofText ("Bearer " ++ token)).all isVisible = true := by
        rw [all_isVisible_ofText, hlist, hparts]
        exact hvisible
      rw [valueText?, if_pos hall, Bytes.text?_ofText]
    · rw [hlist, Text.after?_eq_some_iff.2 rfl, Option.map_some,
        String.ofList_toList]

/-- A request brings a key: the first header that can hold one holds it. -/
def Brings (r : AdminRequest) (key : String) : Prop :=
  header? "authorization" r.headers = some (Bytes.ofText ("Bearer " ++ key))

instance (r : AdminRequest) (key : String) : Decidable (Brings r key) :=
  inferInstanceAs (Decidable (_ = _))

/-- **Who is let in**: who brings the key, if it is visible, and not empty. -/
theorem isAuthorized_iff :
    a.isAuthorized r = true ↔
      Brings r a.key ∧ Text.Visible a.key.toList ∧ a.key ≠ "" := by
  have htoken : (header? "authorization" r.headers).bind token? = some a.key ↔
      Brings r a.key ∧ Text.Visible a.key.toList := by
    rw [Option.bind_eq_some_iff, Brings]
    simp only [token?_eq_some_iff]
    exact ⟨fun ⟨value, hvalue, heq, hvisible⟩ => ⟨heq ▸ hvalue, hvisible⟩,
      fun h => ⟨_, h.1, rfl, h.2⟩⟩
  rw [← and_assoc, ← htoken, isAuthorized]
  cases (header? "authorization" r.headers).bind token? with
  | none => simp
  | some token =>
    simp only [Bool.and_eq_true, bne_iff_ne, beq_iff_eq, Option.some.injEq]
    exact ⟨fun h => ⟨h.2, h.2 ▸ h.1⟩, fun h => ⟨h.1 ▸ h.2, h.1⟩⟩

theorem exists_brings (key : String) : ∃ r, Brings r key := by
  refine ⟨⟨"GET", "/", [("authorization", Bytes.ofText ("Bearer " ++ key))]⟩, ?_⟩
  simp [Brings, header?]

/-- Whether there is a page does not depend on what it shows. -/
theorem isSome_page? (a b : Admin) (target : String) :
    (a.page? target).isSome = (b.page? target).isSome := by
  rw [page?, page?]
  cases (Uri.ofText? target).map (·.path) with
  | none => rfl
  | some path =>
    dsimp only
    split
    · rfl
    · split <;> rfl

/-- **What those hear who are not let in**: no more than which methods a page
knows, if there is one. -/
theorem answer_of_unauthorized (h : a.isAuthorized r = false) :
    a.answer r =
      { status := 401
        allow := if (a.page? r.target).isSome &&
          !(r.method == "GET" || r.method == "HEAD") then some methods
            else none } := by
  rw [answer, h]
  rfl

/-- Nobody else hears that. -/
theorem status_answer (a : Admin) (r : AdminRequest) :
    (a.answer r).status = 401 ↔ a.isAuthorized r = false := by
  constructor
  · intro hstatus
    by_contra hauthorized
    rw [answer, Bool.not_eq_false] at *
    simp only [hauthorized, Bool.not_true, Bool.false_eq_true, if_false] at hstatus
    cases hpage : a.page? r.target with
    | none => simp [hpage] at hstatus
    | some body =>
      simp only [hpage] at hstatus
      split at hstatus <;> simp at hstatus
  · intro h
    rw [answer_of_unauthorized h]

end Admin

/-! ## Valid configurations -/

namespace Config

variable {c : Config}

/-- The interface of a configuration for operators, in a state of the backends
and the clients. -/
def interface (c : Config) (pool : Pool) (openConnections : Nat) : Admin :=
  { key := c.admin.apiKey, policy := c.loadBalancing.policy, pool := pool,
    openConnections := openConnections }

/-- A key that is asked for is not empty, for an empty one would be blank. -/
theorem apiKey_ne_empty (hvalid : c.flaws = [])
    (henabled : c.admin.enabled = true) : c.admin.apiKey ≠ "" := by
  intro hempty
  have hblank : ∀ ch ∈ c.admin.apiKey.toList, Text.isBlank ch = true := by
    rw [hempty]
    exact nofun
  have hflaw : ConfigFlaw.emptyApiKey ∈ c.flaws :=
    mem_flaws_iff.2 (.key henabled hblank)
  rw [hvalid] at hflaw
  cases hflaw

/-- **The key opens the pages, and nothing else does**, if it is visible; then
exactly those are let in whose first header for it holds it behind the name of
the scheme. A key that is not visible is valid too, but lets nobody in. Those
who are not let in are told so, and hear the same in every state of the backends
and the clients. -/
theorem key_opens (hvalid : c.validate = .ok c)
    (henabled : c.admin.enabled = true) :
    (∀ r pool n, (c.interface pool n).isAuthorized r = true ↔
        Admin.Brings r c.admin.apiKey ∧ Text.Visible c.admin.apiKey.toList) ∧
      ((∀ r pool n, (c.interface pool n).isAuthorized r = true ↔
        Admin.Brings r c.admin.apiKey) ↔
        Text.Visible c.admin.apiKey.toList) ∧
      (∀ r pool n, ((c.interface pool n).answer r).status = 401 ↔
        (c.interface pool n).isAuthorized r = false) ∧
      ∀ r pool n, (c.interface pool n).isAuthorized r = false →
        ((c.interface pool n).answer r).contentType = none ∧
        ((c.interface pool n).answer r).body = .empty ∧
        ∀ pool' n', (c.interface pool' n').answer r =
          (c.interface pool n).answer r := by
  have hkey := apiKey_ne_empty (validate_eq_ok_iff.1 hvalid).1 henabled
  have hopens (r : AdminRequest) (pool : Pool) (n : Nat) :
      (c.interface pool n).isAuthorized r = true ↔
      Admin.Brings r c.admin.apiKey ∧ Text.Visible c.admin.apiKey.toList := by
    rw [Admin.isAuthorized_iff, interface, and_iff_left hkey]
  refine ⟨hopens, ⟨fun hall => ?_, fun hvisible r pool n => ?_⟩,
    fun r pool n => Admin.status_answer _ r, fun r pool n h => ?_⟩
  · obtain ⟨r, hr⟩ := Admin.exists_brings c.admin.apiKey
    exact ((hopens r default 0).1 ((hall r default 0).2 hr)).2
  · rw [hopens, and_iff_left hvisible]
  · have hsame (pool' : Pool) (n' : Nat) :
        (c.interface pool' n').isAuthorized r = false := by
      rw [← Bool.not_eq_true, hopens, ← hopens r pool n, h]
      exact Bool.false_ne_true
    rw [Admin.answer_of_unauthorized h]
    refine ⟨rfl, rfl, fun pool' n' => ?_⟩
    rw [Admin.answer_of_unauthorized (hsame pool' n'),
      Admin.isSome_page? (c.interface pool' n') (c.interface pool n)]

/-- A visible key, which is brought in the first of two headers for it, and
another one that is not let in. -/
theorem key_opens_first :
    let c : Config :=
      { backends := [{ address := "127.0.0.1:3000" }]
        admin := { enabled := true, apiKey := "k 1" } }
    let pool : Pool :=
      { members := [⟨⟨"b0", ⟨.loopback, 3000, 0⟩, 1, none, by decide⟩, {}, 0⟩] }
    let r : AdminRequest :=
      ⟨"GET", "/admin/status", [("AUTHORIZATION", Bytes.ofText "Bearer k 1"),
        ("authorization", Bytes.ofText "no")]⟩
    c.validate = .ok c ∧ c.admin.enabled = true ∧
      (c.interface pool 0).isAuthorized r = true ∧
      (c.interface pool 0).answer { r with headers := r.headers.tail } =
        (c.interface default 7).answer { r with headers := r.headers.tail } := by
  intro c pool r
  have hvalid : c.validate = .ok c := by decide
  obtain ⟨hopens, -, -, hsame⟩ := key_opens hvalid rfl
  refine ⟨hvalid, rfl, (hopens r pool 0).2 ⟨by decide, by decide⟩, ?_⟩
  exact ((hsame _ pool 0 (by decide)).2.2 default 7).symm

/-- **A key that lets nobody in**: it is valid, and who brings it is turned
away. -/
theorem key_locks_out :
    let c : Config :=
      { backends := [{ address := "127.0.0.1:9000" }],
        admin := { enabled := true, apiKey := "\u00e9" } }
    let pool : Pool :=
      { members := [⟨⟨"b0", ⟨.loopback, 9000, 0⟩, 1, none, by decide⟩, {}, 0⟩] }
    let r : AdminRequest :=
      ⟨"GET", "/admin/status", [("authorization", Bytes.ofText "Bearer \u00e9")]⟩
    c.validate = .ok c ∧ c.admin.enabled = true ∧ Admin.Brings r c.admin.apiKey ∧
      (c.interface pool 0).isAuthorized r = false ∧
      (c.interface pool 0).answer r = { status := 401 } := by
  intro c pool r
  exact ⟨by decide, rfl, by decide, by decide, by decide⟩

end Config

end Gateway
