import Mathlib.Logic.Function.Basic

/-!
# File systems

A file system is a map from paths to the contents of the files there.
-/

/-- The content of the file at each path that has one. -/
def FileSystem (P : Type*) := P → Option (List UInt8)

namespace FileSystem

variable {P : Type*} [DecidableEq P]

def write (fs : FileSystem P) (p : P) (bs : List UInt8) : FileSystem P :=
  Function.update fs p (some bs)

def remove (fs : FileSystem P) (p : P) : FileSystem P := Function.update fs p none

/-- The file at `src` moves to `dst` in one step and replaces the file there. -/
def rename (fs : FileSystem P) (src dst : P) : FileSystem P :=
  match fs src with
  | some bs => (fs.remove src).write dst bs
  | none => fs

variable {fs : FileSystem P} {p q src dst : P} {bs : List UInt8}

@[simp] theorem write_self : (fs.write p bs) p = some bs := Function.update_self ..

@[simp] theorem write_ne (h : q ≠ p) : (fs.write p bs) q = fs q := Function.update_of_ne h _ _

@[simp] theorem remove_self : (fs.remove p) p = none := Function.update_self ..

@[simp] theorem remove_ne (h : q ≠ p) : (fs.remove p) q = fs q := Function.update_of_ne h _ _

theorem rename_dst (h : fs src = some bs) : (fs.rename src dst) dst = some bs := by
  rw [rename, h]
  exact write_self

theorem rename_ne (hsrc : q ≠ src) (hdst : q ≠ dst) : (fs.rename src dst) q = fs q := by
  unfold rename
  cases fs src with
  | none => rfl
  | some bs => exact (write_ne hdst).trans (remove_ne hsrc)

end FileSystem
