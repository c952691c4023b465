import WchCh56x.CTypes

/-!
# The SerDes driver, `serdes/serdes.c`

The two receive arrays are filled in turn, and `current_rx_dma` says whose turn it is.
-/

namespace WchCh56x.Serdes

inductive RxDma where
  | rxDma0 | rxDma1
  deriving DecidableEq, Repr

structure SerdesDriver where
  currentRxDma : RxDma
  serdesMaxPacketSize : U16
  sdsRxLen0 : U32
  sdsRxLen1 : U32
  deriving DecidableEq, Repr

def hspiSerdesTxSizeMask : U32 := 0x1fff

def serdesUserDefinedMask : U32 := 0xfffffff

/-- The arguments of `SerDes_DMA_Tx_CFG`. -/
structure TxConfig where
  buffer : Nat
  size : U16
  custom : U32
  deriving DecidableEq, Repr

def serdesSend (driver : SerdesDriver) (buffer : Nat) (size customRegister : U16) : TxConfig where
  buffer := buffer
  size := driver.serdesMaxPacketSize
  custom := ((size.setWidth 32 &&& hspiSerdesTxSizeMask) ||| (customRegister.setWidth 32 <<< 13)) &&&
    serdesUserDefinedMask

/-- What `SERDES_IRQHandler` reads from the registers. -/
structure SdsRegisters where
  rxInt : Bool
  rxLen0 : U32
  rxLen1 : U32
  data0 : U32
  data1 : U32

structure RxCallback where
  buffer : RxDma
  size : U16
  customRegister : U16
  deriving DecidableEq, Repr

/-- `SERDES_IRQHandler` and the call into user code it makes. -/
def serdesIrqHandler (driver : SerdesDriver) (sds : SdsRegisters) :
    SerdesDriver × Option RxCallback :=
  if sds.rxInt then
    let driver := { driver with sdsRxLen0 := sds.rxLen0, sdsRxLen1 := sds.rxLen1 }
    match driver.currentRxDma with
    | .rxDma0 =>
        ({ driver with currentRxDma := .rxDma1 },
          some ⟨.rxDma0, (sds.data0 &&& hspiSerdesTxSizeMask).setWidth 16,
            (sds.data0 >>> 13).setWidth 16⟩)
    | .rxDma1 =>
        ({ driver with currentRxDma := .rxDma0 },
          some ⟨.rxDma1, (sds.data1 &&& hspiSerdesTxSizeMask).setWidth 16,
            (sds.data1 >>> 13).setWidth 16⟩)
  else
    (driver, none)

end WchCh56x.Serdes
