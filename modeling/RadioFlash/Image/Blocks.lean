import RadioFlash.Image.Oem
/-!
# The block chain of an `.oem` image

From the header length on, an image is a chain of `[length:2][payload]` blocks that ends at the
first zero length. Blocks alternate between data for the bootloader and the echo it is expected
to answer, so a chain of `k` blocks makes `k / 2` transfers. `countBlocks` walks the chain and
refuses one that runs past the declared image length.
-/

namespace RadioFlash

/-- The shape of a block chain. -/
structure BlockChain where
  /-- Non-empty blocks, outbound and echo together. -/
  blocks : Nat := 0
  /-- Payload bytes over all blocks, length words excluded. -/
  payloadBytes : Nat := 0
deriving DecidableEq, Inhabited, Repr

namespace BlockChain

/-- Outbound blocks the bootloader will receive. -/
def transfers (c : BlockChain) : Nat := c.blocks / 2

end BlockChain

/-- Walk the chain from `offset`, counting into `chain`, within an image of `imageLen` bytes. -/
def walkBlocks (imageLen : Nat) (offset : Nat) (chain : BlockChain) : Action Source BlockChain :=
  if offset + 2 > imageLen then
    throw (.validation s!"block chain runs off the end of the image at offset {offset}")
  else do
    Source.seek (UInt32.ofNat offset)
    let len := (← Source.readU16).toNat
    if len = 0 then
      pure chain
    else if hnext : offset + 2 + len > imageLen then
      throw (.validation s!"{len}-byte block at offset {offset} overruns the {imageLen}-byte image")
    else
      walkBlocks imageLen (offset + 2 + len)
        { blocks := chain.blocks + 1, payloadBytes := chain.payloadBytes + len }
termination_by imageLen - offset
decreasing_by omega

/-- Walk the block chain of an image from its header length. -/
def countBlocks (header : OemHeader) : Action Source BlockChain :=
  walkBlocks header.imageLen.toNat header.headerLen.toNat {}

end RadioFlash
