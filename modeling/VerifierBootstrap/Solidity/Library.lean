import VerifierBootstrap.Digest.Halves

/-!
Solidity libraries of fixed test vectors: one file per library, with a header, the compiler
version and the constants, each on a line of its own.
-/

namespace VerifierBootstrap.Solidity

/-- The remark that every generated file begins with, by lines. -/
def headerRemark : List String :=
  ["Copyright 2024 RISC Zero, Inc.",
   "",
   "Licensed under the Apache License, Version 2.0 (the \"License\");",
   "you may not use this file except in compliance with the License.",
   "You may obtain a copy of the License at",
   "",
   "    http://www.apache.org/licenses/LICENSE-2.0",
   "",
   "Unless required by applicable law or agreed to in writing, software",
   "distributed under the License is distributed on an \"AS IS\" BASIS,",
   "WITHOUT WARRANTIES OR CONDITIONS OF ANY KIND, either express or implied.",
   "See the License for the specific language governing permissions and",
   "limitations under the License.",
   "",
   "SPDX-License-Identifier: Apache-2.0"]

/-- The remark that names the generating command, by lines. -/
def originRemark : List String :=
  ["This file is automatically generated by:",
   "python -m zkboot.cli.bootstrap_groth16"]

/-- A line of a remark. -/
def remarkLine (line : String) : Text :=
  if line.isEmpty then "//\n".toList else "// ".toList ++ line.toList ++ ['\n']

/-- What every generated file begins with. -/
def header : Text :=
  headerRemark.flatMap remarkLine ++ '\n' :: originRemark.flatMap remarkLine ++ ['\n']

/-- A library: its name, the compiler versions it is for, and its constants. -/
structure Library where
  name : Text
  pragma : Text
  constants : List Text
deriving Repr, DecidableEq

/-- A constant on its line. -/
def constantLine (constant : Text) : Text :=
  "    ".toList ++ constant ++ ['\n']

/-- The file of a library. -/
def Library.render (library : Library) : Text :=
  header ++ "pragma solidity ".toList ++ library.pragma ++ ";\n\n".toList
    ++ "library ".toList ++ library.name ++ " \x7b\n".toList
    ++ library.constants.flatMap constantLine ++ "\x7d\n".toList

/-- The constants of a control root: its two halves. -/
def controlIdConstants (controlRoot : Digest) : List Text :=
  let halves := controlRoot.split
  ["uint256 public constant CONTROL_ID_0 = ".toList ++ halves.high ++ [';'],
   "uint256 public constant CONTROL_ID_1 = ".toList ++ halves.low ++ [';']]

/-- The library of a control root. -/
def controlIdLibrary (controlRoot : Digest) : Library :=
  ⟨"ControlID".toList, "^0.8.9".toList, controlIdConstants controlRoot⟩

/-- What a contract needs of a receipt. -/
structure TestVector where
  sealBytes : Bytes
  postDigest : Digest
  journal : Bytes
  imageId : Digest
deriving DecidableEq

/-- A constant of bytes. -/
def bytesConstant (name : String) (bytes : Bytes) : Text :=
  "bytes public constant ".toList ++ name.toList ++ " = hex\"".toList ++ Hex.encode bytes
    ++ "\";".toList

/-- A constant that is a digest. -/
def digestConstant (name : String) (digest : Digest) : Text :=
  "bytes32 public constant ".toList ++ name.toList ++ " = bytes32(0x".toList ++ digest.toHex
    ++ ");".toList

/-- The constants of a test vector. -/
def TestVector.constants (vector : TestVector) : List Text :=
  [bytesConstant "SEAL" vector.sealBytes, digestConstant "POST_DIGEST" vector.postDigest,
   bytesConstant "JOURNAL" vector.journal, digestConstant "IMAGE_ID" vector.imageId]

/-- The library of a test vector. -/
def TestVector.library (vector : TestVector) : Library :=
  ⟨"TestReceipt".toList, "^0.8.13".toList, vector.constants⟩

end VerifierBootstrap.Solidity
