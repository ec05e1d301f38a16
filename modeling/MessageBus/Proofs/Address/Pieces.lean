import MessageBus.Address.Basic
import MessageBus.Proofs.Address.Percent
import MessageBus.Text.Natural
import Mathlib.Data.List.Pairwise
import Mathlib.Data.List.TakeWhile
/-!
# The coordinates in an address

An address is cut into pieces first, at the characters that are reserved for it, and then the escapes in each piece are
resolved. Pieces that hold no reserved character are cut out as they were put in (`ofRest_joined`). Whatever stands in
them, a piece that is cut out of a user or of a password never goes on after the first reserved character
(`isPrefix_user_ofRest`, `isPrefix_password_ofRest`).
-/

namespace MessageBus.Address

/-- Where a broker is, and who logs in there. -/
structure Coordinates where
  user : String
  password : String
  host : String
  port : Nat
  vhost : String
  deriving DecidableEq, Repr

/-- The pieces of an address as they stand in it. -/
structure Pieces where
  user : List Char
  password : List Char
  host : List Char
  port : List Char
  vhost : List Char
  deriving DecidableEq, Repr

/-- What stands for the user and the password in an authority, and what stands for the host and the port. -/
def splitAuthority (authority : List Char) : List Char × List Char :=
  (splitLast? '@' authority).getD ([], authority)

/-- The pieces of what follows the scheme. The authority ends where the path, the query or the fragment begins; who logs
in stands before its last at sign, the user before the first colon of that; and the path ends where the query or the
fragment begins. -/
def Pieces.ofRest (cs : List Char) : Pieces :=
  let authority := cs.takeWhile fun c => !endsAuthority false c
  let (login, place) := splitAuthority authority
  let path := (cs.dropWhile fun c => !endsAuthority false c).takeWhile fun c => c ≠ '?' && c ≠ '#'
  { user := login.takeWhile (· ≠ ':')
    password := (login.dropWhile (· ≠ ':')).tail
    host := place.takeWhile (· ≠ ':')
    port := (place.dropWhile (· ≠ ':')).tail
    vhost := path.tail }

/-- The text of a piece, if the bytes that it stands for are one. -/
def pieceText? (cs : List Char) : Option String := (percentDecode cs).toText?

/-- The coordinates in an address without encryption. -/
def coordinates? (address : String) : Option Coordinates := do
  let p := Pieces.ofRest (← "amqp://".toList.isPrefixOf? address.toList)
  let port ← (Text.readNatural 0xffff (String.ofList p.port)).toOption
  return ⟨← pieceText? p.user, ← pieceText? p.password, ← pieceText? p.host, port, ← pieceText? p.vhost⟩

/-! ## Cutting -/

section Cutting
variable {α : Type} {p : α → Bool} {before after : List α} {x : α}

theorem takeWhile_cut (h : ∀ a ∈ before, p a) (hx : ¬p x) : (before ++ x :: after).takeWhile p = before := by
  rw [List.takeWhile_append_of_pos h, List.takeWhile_cons_of_neg hx, List.append_nil]

theorem dropWhile_cut (h : ∀ a ∈ before, p a) (hx : ¬p x) : (before ++ x :: after).dropWhile p = x :: after := by
  rw [List.dropWhile_append_of_pos h, List.dropWhile_cons_of_neg hx]

theorem takeWhile_append_cons (hx : ¬p x) : (before ++ x :: after).takeWhile p = before.takeWhile p := by
  induction before with
  | nil => exact List.takeWhile_cons_of_neg hx
  | cons a before ih => simp only [List.cons_append, List.takeWhile_cons, ih]

theorem takeWhile_append_of_not (h : ¬∀ a ∈ before, p a) : (before ++ after).takeWhile p = before.takeWhile p := by
  rw [List.takeWhile_append, if_neg]
  intro hlength
  exact h (List.takeWhile_eq_self_iff.1 ((List.takeWhile_prefix p).eq_of_length hlength))

/-- What begins a list and holds throughout stands in the part of it that holds. -/
theorem prefix_takeWhile {xs ys : List α} (h : xs <+: ys) (hp : ∀ a ∈ xs, p a) : xs <+: ys.takeWhile p := by
  obtain ⟨zs, rfl⟩ := h
  rw [List.takeWhile_append_of_pos hp]
  exact List.prefix_append xs _

end Cutting

theorem splitLast?_cut {sep : Char} {before after : List Char} (h : sep ∉ after) :
    splitLast? sep (before ++ sep :: after) = some (before, after) := by
  have hafter : (((before ++ sep :: after).reverse.takeWhile (· ≠ sep)).reverse) = after := by
    rw [List.reverse_append, List.reverse_cons, List.append_assoc, List.singleton_append,
      takeWhile_cut (by simpa using fun a ha (heq : a = sep) => h (heq ▸ ha)) (by simp), List.reverse_reverse]
  simp only [splitLast?, hafter, List.length_append, List.length_cons]
  rw [if_neg (by omega), show before.length + (after.length + 1) - after.length - 1 = before.length by omega,
    List.take_left]

theorem isPrefix_splitAuthority (authority : List Char) : (splitAuthority authority).1 <+: authority := by
  rw [splitAuthority, splitLast?]
  split
  · exact List.nil_prefix
  · exact List.take_prefix _ _

/-! ## Pieces of an address that was joined -/

/-- None of the reserved characters is among these. -/
def Without (reserved cs : List Char) : Prop := ∀ c ∈ cs, c ∉ reserved

instance (reserved cs : List Char) : Decidable (Without reserved cs) :=
  List.decidableBAll (· ∉ reserved) cs

namespace Without

variable {reserved reserved' cs cs' : List Char} {c : Char}

theorem append (h : Without reserved cs) (h' : Without reserved cs') : Without reserved (cs ++ cs') := fun c hc =>
  (List.mem_append.1 hc).elim (h c) (h' c)

theorem cons (hc : c ∉ reserved) (h : Without reserved cs) : Without reserved (c :: cs) :=
  List.forall_mem_cons.2 ⟨hc, h⟩

theorem mono (h : Without reserved cs) (hsub : reserved' ⊆ reserved) : Without reserved' cs :=
  fun c hc hmem => h c hc (hsub hmem)

theorem ne (h : Without reserved cs) (hc : c ∈ reserved) : ∀ a ∈ cs, decide (a ≠ c) :=
  fun a ha => decide_eq_true fun heq => h a ha (heq ▸ hc)

theorem iff_takeWhile_eq : Without reserved cs ↔ cs.takeWhile (· ∉ reserved) = cs := by
  rw [List.takeWhile_eq_self_iff]
  simp only [Without, decide_eq_true_eq]

theorem not_endsAuthority (h : Without ['/', '?', '#'] cs) : ∀ a ∈ cs, !endsAuthority false a := by
  intro a ha
  have hno := h a ha
  simp only [List.mem_cons, List.not_mem_nil, or_false, not_or] at hno
  simp [endsAuthority, hno]

end Without

namespace Pieces

/-- What follows the scheme in an address of these pieces. -/
def joined (p : Pieces) : List Char :=
  ((p.user ++ ':' :: p.password) ++ '@' :: (p.host ++ ':' :: p.port)) ++ '/' :: p.vhost

theorem joined_eq (p : Pieces) :
    p.joined = p.user ++ ':' :: (p.password ++ '@' :: ((p.host ++ ':' :: p.port) ++ '/' :: p.vhost)) := by
  simp [joined]

/-- Pieces without the characters that are reserved after them are cut out as they were put in, but for what stands in
the path after a question mark or a number sign. -/
theorem ofRest_joined {p : Pieces} (huser : Without [':', '/', '?', '#'] p.user)
    (hpassword : Without ['/', '?', '#'] p.password) (hhost : Without ['@', ':', '/', '?', '#'] p.host)
    (hport : Without ['@', '/', '?', '#'] p.port) :
    ofRest p.joined = { p with vhost := p.vhost.takeWhile fun c => c ≠ '?' && c ≠ '#' } := by
  have hlogin : Without ['/', '?', '#'] (p.user ++ ':' :: p.password) :=
    (huser.mono (by decide)).append (.cons (by decide) hpassword)
  have hplace : Without ['@', '/', '?', '#'] (p.host ++ ':' :: p.port) :=
    (hhost.mono (by decide)).append (.cons (by decide) hport)
  have hauthority : Without ['/', '?', '#'] ((p.user ++ ':' :: p.password) ++ '@' :: (p.host ++ ':' :: p.port)) :=
    hlogin.append (.cons (by decide) (hplace.mono (by decide)))
  have hsplit : splitAuthority ((p.user ++ ':' :: p.password) ++ '@' :: (p.host ++ ':' :: p.port)) =
      (p.user ++ ':' :: p.password, p.host ++ ':' :: p.port) := by
    rw [splitAuthority, splitLast?_cut fun h => hplace '@' h (by decide)]
    rfl
  have hends : ¬(!endsAuthority false '/') = true := by decide
  have hcolon : ¬decide (':' ≠ ':') = true := by decide
  have husers := huser.ne (c := ':') (by decide)
  have hhosts := hhost.ne (c := ':') (by decide)
  simp only [ofRest, joined, takeWhile_cut hauthority.not_endsAuthority hends,
    dropWhile_cut hauthority.not_endsAuthority hends, hsplit, takeWhile_cut husers hcolon, dropWhile_cut husers hcolon,
    takeWhile_cut hhosts hcolon, dropWhile_cut hhosts hcolon, List.tail_cons]
  rfl

/-! ## Pieces of any address -/

variable {cs user after : List Char}

/-- What stands before the last at sign of the authority. -/
def login (cs : List Char) : List Char := (splitAuthority (cs.takeWhile fun c => !endsAuthority false c)).1

theorem password_ofRest (cs : List Char) : (ofRest cs).password = ((login cs).dropWhile (· ≠ ':')).tail := rfl

theorem isPrefix_login (cs : List Char) : login cs <+: cs :=
  (isPrefix_splitAuthority _).trans (List.takeWhile_prefix _)

theorem login_without (cs : List Char) : Without ['/', '?', '#'] (login cs) := by
  intro c hc
  have hends : !endsAuthority false c :=
    List.mem_takeWhile_imp (p := fun c => !endsAuthority false c) ((isPrefix_splitAuthority _).subset hc)
  simpa [endsAuthority, and_assoc] using hends

/-- What is cut out as the user begins what was put in as the user, and holds no reserved character. -/
theorem isPrefix_user_ofRest (user after : List Char) :
    (ofRest (user ++ ':' :: after)).user <+: user.takeWhile (· ∉ [':', '/', '?', '#']) := by
  have huser : (ofRest (user ++ ':' :: after)).user <+: login (user ++ ':' :: after) := List.takeWhile_prefix _
  have hfree : ∀ c ∈ (ofRest (user ++ ':' :: after)).user, decide (c ∉ [':', '/', '?', '#']) := by
    intro c hc
    have hcolon : c ≠ ':' := of_decide_eq_true (List.mem_takeWhile_imp (p := fun c => decide (c ≠ ':')) hc)
    exact decide_eq_true fun hmem =>
      (List.mem_cons.1 hmem).elim hcolon (login_without _ c (huser.subset hc))
  have hpart : (user ++ ':' :: after).takeWhile (· ∉ [':', '/', '?', '#']) =
      user.takeWhile (· ∉ [':', '/', '?', '#']) := takeWhile_append_cons (by decide)
  rw [← hpart]
  exact prefix_takeWhile (huser.trans (isPrefix_login _)) hfree

/-- Where the user is cut out as it was put in, what is cut out as the password begins what was put in after the user.
If that was a password with a reserved character, it ends before the first one. -/
theorem isPrefix_password_ofRest {password : List Char} (hcs : cs = user ++ ':' :: (password ++ after))
    (huser : (ofRest cs).user = user) (hreserved : ¬Without ['/', '?', '#'] password) :
    (ofRest cs).password <+: password.takeWhile (· ∉ ['/', '?', '#']) := by
  have hlogin : user ++ (login cs).dropWhile (· ≠ ':') = login cs :=
    (congrArg (· ++ _) huser.symm).trans List.takeWhile_append_dropWhile
  have hsuffix : (ofRest cs).password <:+ login cs := (List.tail_suffix _).trans (List.dropWhile_suffix _)
  have hprefix : (ofRest cs).password <+: password ++ after := by
    rw [password_ofRest]
    cases hdrop : (login cs).dropWhile (· ≠ ':') with
    | nil => exact List.nil_prefix
    | cons x rest =>
      rw [hdrop] at hlogin
      have hwhole : user ++ x :: rest <+: user ++ ':' :: (password ++ after) := hlogin ▸ hcs ▸ isPrefix_login cs
      exact (List.cons_prefix_cons.1 ((List.prefix_append_right_inj user).1 hwhole)).2
  rw [← takeWhile_append_of_not (by simpa [Without] using hreserved)]
  exact prefix_takeWhile hprefix fun c hc => decide_eq_true (login_without cs c (hsuffix.subset hc))

end Pieces

/-! ## The texts of pieces -/

theorem pieceText?_eq_some {cs : List Char} {s : String} :
    pieceText? cs = some s ↔ percentDecode cs = Bytes.ofText s :=
  ⟨fun h => (Bytes.ofText_of_toText? h).symm, fun h => by rw [pieceText?, h, Bytes.toText?_ofText]⟩

theorem pieceText?_toList {s : String} : pieceText? s.toList = some s ↔ ¬HasEscape s.toList := by
  rw [pieceText?_eq_some, ← percentDecode_eq_ofText_iff, String.ofList_toList]

/-- A beginning of the characters that has as many bytes is all of them. -/
theorem eq_of_length_ofText_le {cs cs' : List Char} (h : cs <+: cs')
    (hlength : (Bytes.ofText (String.ofList cs')).length ≤ (Bytes.ofText (String.ofList cs)).length) : cs = cs' := by
  obtain ⟨rest, rfl⟩ := h
  cases rest with
  | nil => rw [List.append_nil]
  | cons c rest =>
    have hpos := c.utf8Size_pos
    rw [Bytes.ofText_ofList, Bytes.ofText_ofList, List.flatMap_append, List.flatMap_cons, List.length_append,
      List.length_append, String.length_utf8EncodeChar] at hlength
    omega

/-- A text comes out of a piece that is cut from what stands for it only if the piece is all of it. -/
theorem eq_of_pieceText? {piece part : List Char} {s : String} (hpiece : piece <+: part) (hpart : part <+: s.toList)
    (h : pieceText? piece = some s) : piece = s.toList ∧ part = s.toList := by
  rw [pieceText?_eq_some] at h
  have hbytes : (Bytes.ofText (String.ofList s.toList)).length ≤ (Bytes.ofText (String.ofList piece)).length := by
    rw [String.ofList_toList, ← h]
    exact length_percentDecode_le piece
  have hall : piece = s.toList := eq_of_length_ofText_le (hpiece.trans hpart) hbytes
  exact ⟨hall, hpart.eq_of_length_le (hall ▸ hpiece.length_le)⟩

theorem toOption_eq_some {ε α : Type} {x : Except ε α} {a : α} : x.toOption = some a ↔ x = .ok a := by
  cases x <;> simp [Except.toOption]

theorem coordinates?_eq_some {address : String} {rest : List Char} {x : Coordinates}
    (h : address.toList = "amqp://".toList ++ rest) :
    coordinates? address = some x ↔ pieceText? (Pieces.ofRest rest).user = some x.user ∧
      pieceText? (Pieces.ofRest rest).password = some x.password ∧
      pieceText? (Pieces.ofRest rest).host = some x.host ∧
      Text.readNatural 0xffff (String.ofList (Pieces.ofRest rest).port) = .ok x.port ∧
      pieceText? (Pieces.ofRest rest).vhost = some x.vhost := by
  rw [coordinates?, h, List.isPrefixOf?_eq_some_iff_append_eq.2 rfl]
  simp only [Option.bind_eq_bind, Option.bind_some, Option.bind_eq_some_iff, toOption_eq_some, Option.pure_def,
    Option.some.injEq]
  constructor
  · rintro ⟨port, hport, user, huser, password, hpassword, host, hhost, vhost, hvhost, rfl⟩
    exact ⟨huser, hpassword, hhost, hport, hvhost⟩
  · rintro ⟨huser, hpassword, hhost, hport, hvhost⟩
    exact ⟨_, hport, _, huser, _, hpassword, _, hhost, _, hvhost, rfl⟩

end MessageBus.Address
