import Permits.Policy.Did
import Permits.Proofs.Text.Digits
import Permits.Proofs.Text.Utf8

namespace Permits

namespace Hash

def Collide (m n : List UInt8) : Prop := m ≠ n ∧ sha256 m = sha256 n

end Hash

namespace Did

/-- What the name of a DID within an application is hashed from. -/
def message (did space : String) : List UInt8 := (subject did space).toUTF8.toList

/-- The second DID says, after a slash, what the second namespace lacks in front of it. -/
def Spills (did space did' space' : String) : Prop :=
  ∃ r, Text.lowercase did' = Text.lowercase did ++ "/" ++ r ∧ space = r ++ "/" ++ space'

variable {did did' space space' : String}

theorem username_eq (h : validate did = .ok ()) (hs : space ≠ "") :
    username did space =
      .ok ⟨String.ofList ('v' :: Text.hexBytes (Hash.sha256 (message did space)))⟩ := by
  unfold username
  rw [h]
  simp only [bind, Except.bind, if_neg hs]
  rfl

theorem subject_toList (did space : String) :
    (subject did space).toList = (Text.lowercase did).toList ++ '/' :: space.toList := by
  simp [subject]

theorem spills_of_toList {r : List Char}
    (hdid : (Text.lowercase did').toList = (Text.lowercase did).toList ++ '/' :: r)
    (hspace : space.toList = r ++ '/' :: space'.toList) : Spills did space did' space' := by
  refine ⟨String.ofList r, ?_, ?_⟩
  · apply String.toList_inj.1
    simp [hdid]
  · apply String.toList_inj.1
    simp [hspace]

theorem Spills.subject_eq (h : Spills did space did' space') :
    subject did space = subject did' space' := by
  obtain ⟨r, hdid, hspace⟩ := h
  rw [subject, subject, hdid, hspace]
  simp [String.append_assoc]

/-- One slash is like another: the text does not tell which of them parts the DID from the
namespace. -/
theorem subject_eq_iff : subject did space = subject did' space' ↔
    (Text.lowercase did = Text.lowercase did' ∧ space = space') ∨
      Spills did space did' space' ∨ Spills did' space' did space := by
  constructor
  · intro h
    have hlists := congrArg String.toList h
    rw [subject_toList, subject_toList, List.append_eq_append_iff] at hlists
    rcases hlists with ⟨r, hdid, hspace⟩ | ⟨r, hdid, hspace⟩
    · cases r with
      | nil =>
        rw [List.append_nil] at hdid
        exact .inl ⟨String.toList_inj.1 hdid.symm, String.toList_inj.1 (List.cons.inj hspace).2⟩
      | cons c r =>
        rw [List.cons_append, List.cons.injEq] at hspace
        obtain ⟨rfl, hspace⟩ := hspace
        exact .inr (.inl (spills_of_toList hdid hspace))
    · cases r with
      | nil =>
        rw [List.append_nil] at hdid
        exact .inl ⟨String.toList_inj.1 hdid, String.toList_inj.1 (List.cons.inj hspace).2.symm⟩
      | cons c r =>
        rw [List.cons_append, List.cons.injEq] at hspace
        obtain ⟨rfl, hspace⟩ := hspace
        exact .inr (.inr (spills_of_toList hdid hspace))
  · rintro (⟨hdid, rfl⟩ | h | h)
    · rw [subject, subject, hdid]
    · exact h.subject_eq
    · exact h.subject_eq.symm

theorem Spills.lowercase_ne (h : Spills did space did' space') :
    Text.lowercase did ≠ Text.lowercase did' := by
  obtain ⟨r, hdid, -⟩ := h
  intro heq
  have hlen := congrArg (fun s => s.toList.length) (heq.trans hdid)
  simp only [String.toList_append, List.length_append] at hlen
  have hslash : "/".toList.length = 1 := rfl
  omega

theorem not_spills_of_not_mem (h : '/' ∉ space.toList) : ¬ Spills did space did' space' := by
  rintro ⟨r, -, hspace⟩
  apply h
  rw [hspace]
  simp

/-- Where nothing collides, names are equal just if the hashed texts are. -/
theorem username_inj (h : validate did = .ok ()) (h' : validate did' = .ok ()) (hs : space ≠ "")
    (hs' : space' ≠ "") (free : ¬ Hash.Collide (message did space) (message did' space')) :
    username did space = username did' space' ↔ subject did space = subject did' space' := by
  rw [username_eq h hs, username_eq h' hs']
  constructor
  · intro heq
    have hname := congrArg Identity.name (Except.ok.inj heq)
    have hdigest := Text.hexBytes_injective (List.cons.inj (String.ofList_inj.1 hname)).2
    have hmessage : message did space = message did' space' :=
      Decidable.byContradiction fun hne => free ⟨hne, hdigest⟩
    exact toUTF8_toList_inj.1 hmessage
  · intro heq
    rw [message, message, heq]

/-- Names tell DIDs and applications apart, unless one DID spills into the namespace of the other:
just then two principals have one name. -/
theorem username_separates_iff (h : validate did = .ok ()) (h' : validate did' = .ok ())
    (hs : space ≠ "") (hs' : space' ≠ "")
    (free : ¬ Hash.Collide (message did space) (message did' space')) :
    (∃ i, username did space = .ok i) ∧ (∃ i, username did' space' = .ok i) ∧
    ((username did space = username did' space' →
        Text.lowercase did = Text.lowercase did' ∧ space = space') ↔
      ¬ Spills did space did' space' ∧ ¬ Spills did' space' did space) := by
  refine ⟨⟨_, username_eq h hs⟩, ⟨_, username_eq h' hs'⟩, ?_⟩
  rw [username_inj h h' hs hs' free]
  constructor
  · intro hsep
    constructor
    · intro hspills
      exact hspills.lowercase_ne (hsep hspills.subject_eq).1
    · intro hspills
      exact hspills.lowercase_ne (hsep hspills.subject_eq.symm).1.symm
  · rintro ⟨hnot, hnot'⟩ heq
    rcases subject_eq_iff.1 heq with hsame | hspills | hspills
    · exact hsame
    · exact absurd hspills hnot
    · exact absurd hspills hnot'

/-- One DID goes on, after a slash, where the other ends; the namespaces have no slash. -/
theorem username_separates_plain :
    validate "did:a:x/y" = .ok () ∧ validate "did:a:x" = .ok () ∧
      ¬ Hash.Collide (message "did:a:x/y" "app1") (message "did:a:x" "app2") ∧
      username "did:a:x/y" "app1" ≠ username "did:a:x" "app2" := by
  have free : ¬ Hash.Collide (message "did:a:x/y" "app1") (message "did:a:x" "app2") := by
    intro h
    exact absurd h.2 (by decide +kernel)
  obtain ⟨-, -, hiff⟩ := @username_separates_iff "did:a:x/y" "did:a:x" "app1" "app2" rfl rfl
    (by decide) (by decide) free
  refine ⟨rfl, rfl, free, ?_⟩
  intro heq
  have hsame := hiff.2 ⟨not_spills_of_not_mem (by decide), not_spills_of_not_mem (by decide)⟩ heq
  exact absurd hsame.2 (by decide)

/-- The slash belongs to a DID of one application and to the name of the other: two principals share
a name. -/
theorem username_shared :
    validate "did:a:x/y" = .ok () ∧ validate "did:a:x" = .ok () ∧
      Text.lowercase "did:a:x/y" ≠ Text.lowercase "did:a:x" ∧ "z" ≠ "y/z" ∧
      ∃ i, username "did:a:x/y" "z" = .ok i ∧ username "did:a:x" "y/z" = .ok i := by
  have hsubject : subject "did:a:x/y" "z" = subject "did:a:x" "y/z" := by decide +kernel
  refine ⟨rfl, rfl, by decide +kernel, by decide, _, username_eq rfl (by decide), ?_⟩
  rw [username_eq rfl (by decide), message, message, hsubject]

end Did

end Permits
