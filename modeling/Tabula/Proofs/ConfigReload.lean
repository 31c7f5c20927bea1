import Tabula.Proofs.FloatText
import Tabula.Proofs.RecordLayout
import Tabula.Proofs.SessionState

/-!
The configuration's printed form read back. `Value.pretty` writes strings in ASCII with `\u`
escapes, a code point beyond `FFFF` as its two surrogates; the reader joins a high surrogate
escape with a low one right after it, so a text reads back as itself exactly when no high
surrogate stands right before a low one (`Text.Rereadable`). Containers are laid out one item per
line, and the reader takes them back item by item as long as they nest no deeper than it allows.
`Value.Reloads` gathers these conditions with the reader's limit on integer digits, and under it
the printed form parses to the value itself (`parse_pretty`): a session's configuration survives
being printed and loaded again.
-/

namespace Tabula

open Json

/-- A text that its ASCII form gives back: its code points are at most `10FFFF`, and no high
surrogate stands right before a low one, a pair the reader would join into one code point. -/
structure Text.Rereadable (t : Text) : Prop where
  bounded : ∀ n ∈ t.points, n < 0x110000
  unjoined : t.points.IsChain fun a b => ¬(isHigh a = true ∧ isLow b = true)

instance (t : Text) : Decidable t.Rereadable :=
  decidable_of_iff ((∀ n ∈ t.points, n < 0x110000) ∧
      t.points.IsChain fun a b => ¬(isHigh a = true ∧ isLow b = true))
    ⟨fun h => ⟨h.1, h.2⟩, fun h => ⟨h.bounded, h.unjoined⟩⟩

namespace Json

/-! ### Strings -/

/-- The written form of a code point that begins with a `\u` escape begins with one whose value
is a low surrogate only when the code point itself is one. -/
theorem asciiPoint_leading_unit (n : Nat) (hn : n < 0x110000) (r : List Nat)
    (h : ((asciiPoint n).map Char.toNat ++ r).take 2 = [0x5C, 0x75]) :
    ∃ v, hex4? ((((asciiPoint n).map Char.toNat ++ r).drop 2).take 4) = some v ∧
      (isLow v = true → isLow n = true) := by
  rcases asciiPoint_cases n with ⟨hp, -, -, h5C⟩ | ⟨e, he, hes⟩ | ⟨hu, hb⟩ | ⟨hu, hb⟩
  · rw [hp] at h
    simp only [List.singleton_append, List.take_succ_cons, List.cons.injEq] at h
    exact absurd h.1 h5C
  · -- `\u` has no one-letter meaning
    rw [he] at h
    simp only [List.cons_append, List.take_succ_cons, List.cons.injEq] at h
    rw [h.2.1] at hes
    simp [simpleEscape?] at hes
  · refine ⟨n, ?_, id⟩
    rw [hu, unitEscape_points]
    simpa using hex4_unitDigits n hb
  · -- a pair begins with its high surrogate
    refine ⟨0xD800 + (n - 0x10000) / 0x400, ?_, fun hl => ?_⟩
    · rw [hu, List.map_append, unitEscape_points, List.append_assoc]
      simpa using hex4_unitDigits (0xD800 + (n - 0x10000) / 0x400) (by omega)
    · simp only [isLow, Bool.and_eq_true, decide_eq_true_eq] at hl
      omega

/-- A string body written in ASCII reads back as its code points, up to its closing quote, when
none is beyond `10FFFF` and no high surrogate stands right before a low one. -/
theorem readString_asciiPoints (begin : Nat) (ps rest : List Nat) (pos : Nat) (acc : Array Nat)
    (hp : ∀ n ∈ ps, n < 0x110000)
    (hc : ps.IsChain fun a b => ¬(isHigh a = true ∧ isLow b = true)) :
    ∃ q, readString begin ((ps.flatMap asciiPoint).map Char.toNat ++ 0x22 :: rest) pos acc =
      .ok (⟨acc.toList ++ ps⟩, rest, q) := by
  induction ps generalizing pos acc with
  | nil => exact ⟨pos + 1, by simpa using readString_close begin rest pos acc⟩
  | cons n ps ih =>
    -- what follows a high surrogate is never the escape of a low one
    have hnext : isHigh n = true →
        ((ps.flatMap asciiPoint).map Char.toNat ++ 0x22 :: rest).take 2 = [0x5C, 0x75] →
        ∃ v, hex4? ((((ps.flatMap asciiPoint).map Char.toNat ++ 0x22 :: rest).drop 2).take 4) =
          some v ∧ isLow v = false := by
      intro hh ht
      cases ps with
      | nil => simp at ht
      | cons n' ps' =>
        rw [List.flatMap_cons, List.map_append, List.append_assoc] at ht ⊢
        obtain ⟨v, hv, hlow⟩ := asciiPoint_leading_unit n' (hp n' (by simp)) _ ht
        refine ⟨v, hv, Bool.eq_false_iff.mpr fun hl => ?_⟩
        exact (List.isChain_cons_cons.mp hc).1 ⟨hh, hlow hl⟩
    obtain ⟨q, hq⟩ := readString_asciiPoint begin n _ pos acc (hp n (List.mem_cons_self ..))
      (by simp) hnext
    obtain ⟨q', hq'⟩ := ih q (acc.push n) (fun m hm => hp m (List.mem_cons_of_mem _ hm)) hc.tail
    refine ⟨q', ?_⟩
    rw [List.flatMap_cons, List.map_append, List.append_assoc, hq, hq']
    simp

def asciiBody (t : Text) : List Nat := (t.points.flatMap asciiPoint).map Char.toNat

theorem bodyReads_asciiBody (t : Text) (ht : t.Rereadable) : BodyReads (asciiBody t) t :=
  fun begin rest pos => readString_asciiPoints begin t.points rest pos #[] ht.bounded ht.unjoined

theorem asciiString_points (t : Text) :
    (Text.ofString (asciiString t)).points = 0x22 :: (asciiBody t ++ [0x22]) := by
  simp [asciiString, asciiBody, Text.ofString_points]

theorem readsAt_asciiString (depth : Nat) (t : Text) (ht : t.Rereadable) :
    ReadsAt depth (Text.ofString (asciiString t)).points (· = .str t) := by
  rw [asciiString_points]
  exact readsAt_string depth _ t (bodyReads_asciiBody t ht)

/-! ### Containers -/

/-- A text that is read as a value does not begin with a byte-order mark, which no value
starts with. -/
theorem ReadsAt.head_ne_bom {depth : Nat} {text : List Nat} {P : Value → Prop}
    (h : ReadsAt depth text P) : ∀ c ∈ text.head?, c ≠ 0xFEFF := by
  obtain ⟨c, r, rfl, -⟩ := h.start
  intro c' hc hbom
  obtain rfl : c = 0xFEFF := by
    rw [← hbom]
    simpa using hc
  obtain ⟨v, q, hv, -⟩ := h.reads (r.length + 1) [] 0 le_rfl rfl
  simp [readValue, startsWith_eq, readNumber, numberSign, numberWhole] at hv

theorem readsAt_emptyArray (depth : Nat) (hd : depth < maxDepth) :
    ReadsAt depth [0x5B, 0x5D] (· = .arr []) :=
  readsAt_word depth _ _ (List.cons_ne_nil _ _) (by decide) fun _ rest pos =>
    ⟨pos + 1 + 1, by simp [readValue, Nat.not_le.mpr hd, skipSpace_stop 0x5D rest (pos + 1) rfl]⟩

theorem readsAt_emptyObject (depth : Nat) (hd : depth < maxDepth) :
    ReadsAt depth [0x7B, 0x7D] (· = .obj []) :=
  readsAt_word depth _ _ (List.cons_ne_nil _ _) (by decide) fun _ rest pos =>
    ⟨pos + 1 + 1, by simp [readValue, Nat.not_le.mpr hd, skipSpace_stop 0x7D rest (pos + 1) rfl]⟩

/-! ### Layout -/

theorem indentText_points (n : Nat) : (Text.ofString (indentText n)).points = spaces (2 * n) :=
  Table.pad_points (2 * n)

theorem prettyItems_points (level : Nat) (x : Value) (xs : List Value) (close : List Nat) :
    (Text.ofString (Value.prettyItems level (x :: xs))).points ++ 0x0A :: close =
      spaces (2 * level) ++ ((Text.ofString (x.pretty level)).points ++
        itemsTail (spaces (2 * level)) close
          (xs.map fun v => (Text.ofString (v.pretty level)).points)) := by
  induction xs generalizing x with
  | nil =>
    rw [Value.prettyItems.eq_2]
    simp [indentText_points, itemsTail]
  | cons y ys ih =>
    have hsep : (Text.ofString ",\n").points = [0x2C, 0x0A] := rfl
    rw [Value.prettyItems.eq_3 _ _ _ (List.cons_ne_nil _ _)]
    simp only [Table.ofString_append_points, indentText_points, hsep, List.append_assoc,
      List.cons_append, List.nil_append]
    rw [ih]
    simp [itemsTail]

/-- The fields of an object, one per line at `level` with a blank after each colon, then a line
feed and `close`. -/
theorem prettyFields_points (level : Nat) (f : Text × Value) (fs : List (Text × Value))
    (close : List Nat) :
    (Text.ofString (Value.prettyFields level (f :: fs))).points ++ 0x0A :: close =
      spaces (2 * level) ++
        (fieldTextSep [0x20] asciiBody (fun v => (Text.ofString (v.pretty level)).points) f ++
          itemsTail (spaces (2 * level)) close
            (fs.map (fieldTextSep [0x20] asciiBody fun v => (Text.ofString (v.pretty level)).points))) := by
  have hcolon : (Text.ofString ": ").points = [0x3A, 0x20] := rfl
  induction fs generalizing f with
  | nil =>
    obtain ⟨k, v⟩ := f
    rw [Value.prettyFields.eq_2]
    simp [indentText_points, asciiString_points, hcolon, fieldTextSep, itemsTail]
  | cons g gs ih =>
    have hsep : (Text.ofString ",\n").points = [0x2C, 0x0A] := rfl
    obtain ⟨k, v⟩ := f
    rw [Value.prettyFields.eq_3 _ _ _ _ (List.cons_ne_nil _ _)]
    simp only [Table.ofString_append_points, indentText_points, asciiString_points, hcolon, hsep,
      List.append_assoc, List.cons_append, List.nil_append]
    rw [ih]
    simp [itemsTail, fieldTextSep]

theorem pretty_arr_points (level : Nat) (x : Value) (xs : List Value) :
    (Text.ofString ((Value.arr (x :: xs)).pretty level)).points =
      bracketed 0x5B (spaces (2 * (level + 1))) (spaces (2 * level) ++ [0x5D])
        ((x :: xs).map fun v => (Text.ofString (v.pretty (level + 1))).points) := by
  have hopen : (Text.ofString "[\n").points = [0x5B, 0x0A] := rfl
  have hnl : (Text.ofString "\n").points = [0x0A] := rfl
  have hclose : (Text.ofString "]").points = [0x5D] := rfl
  rw [Value.pretty.eq_7 _ _ (List.cons_ne_nil _ _)]
  simp only [Table.ofString_append_points, hopen, hnl, hclose, indentText_points,
    List.append_assoc, List.cons_append, List.nil_append]
  rw [prettyItems_points, List.map_cons, bracketed, List.append_assoc]

/-- A non-empty object is printed `bracketed`, its fields one level deeper with a blank after
each colon. -/
theorem pretty_obj_points (level : Nat) (f : Text × Value) (fs : List (Text × Value)) :
    (Text.ofString ((Value.obj (f :: fs)).pretty level)).points =
      bracketed 0x7B (spaces (2 * (level + 1))) (spaces (2 * level) ++ [0x7D])
        ((f :: fs).map (fieldTextSep [0x20] asciiBody
          fun v => (Text.ofString (v.pretty (level + 1))).points)) := by
  have hopen : (Text.ofString "\x7b\n").points = [0x7B, 0x0A] := rfl
  have hnl : (Text.ofString "\n").points = [0x0A] := rfl
  have hclose : (Text.ofString "\x7d").points = [0x7D] := rfl
  rw [Value.pretty.eq_9 _ _ (List.cons_ne_nil _ _)]
  simp only [Table.ofString_append_points, hopen, hnl, hclose, indentText_points,
    List.append_assoc, List.cons_append, List.nil_append]
  rw [prettyFields_points, List.map_cons, bracketed, List.append_assoc]

/-! ### Values -/

/-- The values whose printed form, standing at nesting `depth`, reads back as themselves: texts
(and keys) that are `Rereadable`, integers of at most `maxDigits` digits, objects with distinct
keys, and containers that open no deeper than the reader allows. Every double qualifies, NaN and
the infinities included. -/
inductive Value.Reloads : Nat → Value → Prop
  | null (depth : Nat) : Reloads depth .null
  | bool (depth : Nat) (b : Bool) : Reloads depth (.bool b)
  | int (depth : Nat) (n : Int) (h : n.natAbs < 10 ^ maxDigits) : Reloads depth (.int n)
  | float (depth : Nat) (x : Float) : Reloads depth (.float x)
  | str (depth : Nat) (t : Text) (h : t.Rereadable) : Reloads depth (.str t)
  | arr (depth : Nat) (xs : List Value) (hd : depth < maxDepth)
      (h : ∀ x ∈ xs, Reloads (depth + 1) x) : Reloads depth (.arr xs)
  | obj (depth : Nat) (fs : List (Text × Value)) (hd : depth < maxDepth)
      (keys : ∀ f ∈ fs, f.1.Rereadable) (distinct : (fs.map Prod.fst).Nodup)
      (h : ∀ f ∈ fs, Reloads (depth + 1) f.2) : Reloads depth (.obj fs)

theorem eq_of_forall₂_eq {α : Type} {xs ys : List α} (h : List.Forall₂ (fun x y => y = x) xs ys) :
    ys = xs := by
  have h' : List.Forall₂ (· = ·) ys xs := h.flip
  rwa [List.forall₂_eq_eq_eq] at h'

/-- The printed form of a value read back at the nesting it was printed for is the value. The
induction follows `Reloads`: scalars by their own readers, containers by the reader's container
lemmas applied to their printed layout. -/
theorem readsAt_pretty {depth : Nat} {v : Value} (h : v.Reloads depth) :
    ReadsAt depth (Text.ofString (v.pretty depth)).points (· = v) := by
  induction h with
  | null depth =>
    rw [Value.pretty.eq_1]
    exact readsAt_null depth
  | bool depth b =>
    rw [Value.pretty.eq_2]
    cases b
    · exact readsAt_false depth
    · exact readsAt_true depth
  | int depth n h => exact readsAt_intText depth n h
  | float depth x => exact readsAt_floatText depth x
  | str depth t h => exact readsAt_asciiString depth t h
  | arr depth xs hd _ ih =>
    cases xs with
    | nil =>
      rw [Value.pretty.eq_6]
      exact readsAt_emptyArray depth hd
    | cons x xs =>
      rw [pretty_arr_points]
      refine (readsAt_array depth hd _ (2 * depth) (spaces_blank _) (x :: xs) _ (fun a w => w = a)
        ih).mono fun w hw => ?_
      obtain ⟨vs, rfl, hF⟩ := hw
      rw [eq_of_forall₂_eq hF]
  | obj depth fs hd keys distinct _ ih =>
    cases fs with
    | nil =>
      rw [Value.pretty.eq_8]
      exact readsAt_emptyObject depth hd
    | cons f fs =>
      rw [pretty_obj_points]
      refine (readsAt_objectSep depth hd _ (2 * depth) (spaces_blank _) [0x20] (by decide) asciiBody
        (f :: fs) _ (fun a w => w = a) (fun y hy => ⟨ih y hy, bodyReads_asciiBody y.1 (keys y hy)⟩)
        distinct).mono fun w hw => ?_
      obtain ⟨vs, rfl, hF⟩ := hw
      -- the values read are the fields' own, zipped back with their keys
      have hvs : vs = (f :: fs).map Prod.snd :=
        eq_of_forall₂_eq (List.forall₂_map_left_iff.mpr hF)
      rw [hvs, ← List.unzip_fst, ← List.unzip_snd, List.zip_unzip]

theorem parse_pretty {v : Value} (h : v.Reloads 0) :
    parse (Text.ofString (v.pretty 0)).points = .ok v := by
  obtain ⟨w, hw, rfl⟩ := parse_of_readsAt _ _ (readsAt_pretty h) (readsAt_pretty h).head_ne_bom
  exact hw

end Json

/-! ### Reloading a session's configuration -/

/-- The text a session prints for its configuration, when the configuration `Reloads`, loads
back into the very same session: the configuration comes back equal, with its keys in order, its
integers and its doubles bit for bit, so printing it afterwards gives the same text again. -/
theorem config_json_reloads (s : Session) (h : s.config.Reloads 0) :
    s.step .configJson = (s, .ok (record [("config_json", Value.ofString (s.config.pretty 0))])) ∧
      s.step (.loadConfig (Value.ofString (s.config.pretty 0))) =
        (s, .ok (outcome true "Configuration loaded successfully!")) := by
  refine ⟨rfl, ?_⟩
  simp only [Session.step, Session.loadConfig, Value.ofString, parse_pretty h]

theorem defaultConfig_reloads : defaultConfig.Reloads 0 := by
  refine .obj 0 _ (by decide) (by decide +kernel) (by decide +kernel) fun f hf => ?_
  simp only [List.mem_cons, List.mem_nil_iff, or_false] at hf
  rcases hf with rfl | rfl | rfl | rfl | rfl
  · exact .arr 1 [] (by decide) (by simp)
  · exact .arr 1 [] (by decide) (by simp)
  · exact .arr 1 [] (by decide) (by simp)
  · exact .null 1
  · exact .arr 1 [] (by decide) (by simp)

theorem init_config_json_reloads :
    Session.init.config.Reloads 0 ∧
      Session.init.step (.loadConfig (Value.ofString (Session.init.config.pretty 0))) =
        (Session.init, .ok (outcome true "Configuration loaded successfully!")) :=
  ⟨defaultConfig_reloads, (config_json_reloads Session.init defaultConfig_reloads).2⟩

/-- A high surrogate right before a low one is printed as two escapes, which the reader joins
into one code point: the printed text loads, but into another configuration. -/
theorem config_reload_joins_surrogates :
    let s : Session := { Session.init with config := .str ⟨[0xD800, 0xDC00]⟩ }
    s.step (.loadConfig (Value.ofString (s.config.pretty 0))) =
      ({ s with config := .str ⟨[0x10000]⟩ },
        .ok (outcome true "Configuration loaded successfully!")) := by
  have hparse : parse (Text.ofString (Value.pretty 0 (.str ⟨[0xD800, 0xDC00]⟩))).points =
      .ok (.str ⟨[0x10000]⟩) := by
    set_option maxRecDepth 100000 in cbv
  simp only [Session.step, Session.loadConfig, Value.ofString, hparse]

end Tabula
