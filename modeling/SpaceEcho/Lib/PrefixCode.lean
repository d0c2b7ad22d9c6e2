/-
Codes whose words carry their own end.  A set of words none of which is a
proper prefix of another can be concatenated without losing the boundaries;
words that end in a terminator which cannot occur past a fixed header form
such a set.
-/
import Mathlib.InformationTheory.Coding.UniquelyDecodable

namespace PrefixCode

open InformationTheory

variable {α : Type*}

/-- No word of the code is a proper prefix of another. -/
def PrefixFree (S : Set (List α)) : Prop :=
  ∀ u ∈ S, ∀ v ∈ S, u <+: v → u = v

/-- A prefix-free code without the empty word is uniquely decodable: the first
word of a stream is the only code word it starts with. -/
theorem PrefixFree.uniquelyDecodable {S : Set (List α)} (hfree : PrefixFree S)
    (hnil : [] ∉ S) : UniquelyDecodable S := by
  intro left
  induction left with
  | nil =>
      intro right _ hright hflat
      cases right with
      | nil => rfl
      | cons word rest =>
          have hword : word = [] := by
            have := hflat.symm
            simp only [List.flatten_nil, List.flatten_cons,
              List.append_eq_nil_iff] at this
            exact this.1
          exact absurd (hword ▸ hright word List.mem_cons_self) hnil
  | cons word rest ih =>
      intro right hleft hright hflat
      cases right with
      | nil =>
          have hword : word = [] := by
            simp only [List.flatten_nil, List.flatten_cons,
              List.append_eq_nil_iff] at hflat
            exact hflat.1
          exact absurd (hword ▸ hleft word List.mem_cons_self) hnil
      | cons word' rest' =>
          have hmem := hleft word List.mem_cons_self
          have hmem' := hright word' List.mem_cons_self
          simp only [List.flatten_cons] at hflat
          -- Both words are prefixes of one stream, so one is a prefix of the other.
          have hpre : word <+: word' ++ rest'.flatten :=
            hflat ▸ List.prefix_append word rest.flatten
          have hheads : word = word' := by
            rcases List.prefix_or_prefix_of_prefix hpre
                (List.prefix_append word' rest'.flatten) with h | h
            · exact hfree word hmem word' hmem' h
            · exact (hfree word' hmem' word hmem h).symm
          subst hheads
          have htails : rest.flatten = rest'.flatten :=
            List.append_cancel_left hflat
          rw [ih rest' (fun w hw => hleft w (List.mem_cons_of_mem word hw))
            (fun w hw => hright w (List.mem_cons_of_mem word hw)) htails]

/-- The word has more than `header` letters, ends in `stop`, and has no other
`stop` from index `header` on. -/
structure Terminated (stop : α) (header : ℕ) (word : List α) : Prop where
  long : header < word.length
  ends : word[word.length - 1]? = some stop
  clear : ∀ i, header ≤ i → i + 1 < word.length → word[i]? ≠ some stop

theorem Terminated.ne_nil {stop : α} {header : ℕ} {word : List α}
    (hword : Terminated stop header word) : word ≠ [] := by
  intro hnil
  have hlong := hword.long
  simp [hnil] at hlong

/-- A header of fixed length, a body free of the terminator, the terminator. -/
theorem terminated_of_parts {stop : α} {header : ℕ} {head body : List α}
    (hhead : head.length = header) (hbody : stop ∉ body) :
    Terminated stop header (head ++ body ++ [stop]) where
  long := by simp [hhead]
  ends := by simp
  clear := by
    intro i hi hin
    have hlast : i < (head ++ body).length := by
      rw [List.length_append, List.length_singleton] at hin
      omega
    rw [List.getElem?_append_left hlast,
      List.getElem?_append_right (by omega)]
    intro hstop
    exact hbody (List.mem_of_getElem? hstop)

/-- The terminator of a shorter word would stand inside the longer one. -/
theorem prefixFree_of_terminated {S : Set (List α)} {stop : α} {header : ℕ}
    (hterm : ∀ word ∈ S, Terminated stop header word) : PrefixFree S := by
  intro u hu v hv hpre
  have hlength : u.length ≤ v.length := hpre.length_le
  by_contra hne
  have hshort : u.length < v.length := by
    refine Nat.lt_of_le_of_ne hlength ?_
    intro heq
    exact hne (hpre.eq_of_length heq)
  have hlong := (hterm u hu).long
  have hstop : v[u.length - 1]? = some stop := by
    have hin : u.length - 1 < u.length := by omega
    rw [← (hterm u hu).ends]
    rw [List.getElem?_eq_getElem hin]
    exact List.prefix_iff_getElem?.mp hpre (u.length - 1) hin
  exact (hterm v hv).clear (u.length - 1) (by omega) (by omega) hstop

end PrefixCode
